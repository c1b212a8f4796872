import WebhookSync.Main
import WebhookSync.Proofs.Capability
import WebhookSync.Proofs.Confinement
import WebhookSync.Proofs.Convergence
import WebhookSync.Proofs.Coverage
import WebhookSync.Proofs.Disclosure
import WebhookSync.Proofs.Foretelling
import WebhookSync.Proofs.Independence
import WebhookSync.Proofs.Listing
import WebhookSync.Proofs.Outcome
import WebhookSync.Proofs.Preview
import WebhookSync.Proofs.Racing
import WebhookSync.Proofs.Reach
import WebhookSync.Proofs.Recognition
import WebhookSync.Proofs.Recovery
import WebhookSync.Proofs.Rivalry
import WebhookSync.Proofs.Secrecy
import WebhookSync.Proofs.ForeignEvents
import WebhookSync.Proofs.Reordering
import WebhookSync.Proofs.Economy
import WebhookSync.Proofs.Answering
import WebhookSync.Proofs.Repeats
import WebhookSync.Proofs.GreatestId
import WebhookSync.Proofs.Addressing
import WebhookSync.Proofs.Placement
import WebhookSync.Proofs.FreshIds
import WebhookSync.Proofs.RoundTrip
import WebhookSync.Proofs.Layering
import WebhookSync.Proofs.Verbatim
import WebhookSync.Proofs.Acts
import WebhookSync.Proofs.Drafting
import WebhookSync.Proofs.Bucketing
