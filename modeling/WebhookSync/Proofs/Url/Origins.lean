import WebhookSync.Url.Extend

/-!
# Origins of addresses

The scheme, the host and the port of an address are settled in front of its path.  So whatever is
made of an address by a longer path or query stays at its origin, and a link that is relative to it
leaves the origin only if it brings an own one (`BringsOrigin`).
-/

namespace WebhookSync.Url

/-- An address that requests can be sent to. -/
def IsWeb (url : Url) : Prop :=
  url.scheme = "http" ∨ url.scheme = "https"

theorem IsWeb.isSpecial {url : Url} (web : url.IsWeb) : isSpecial url.scheme = true := by
  rcases web with isHttp | isHttps
  · rw [isHttp]
    decide
  · rw [isHttps]
    decide

theorem IsWeb.scheme_ne_file {url : Url} (web : url.IsWeb) : url.scheme ≠ "file" := by
  rcases web with isHttp | isHttps
  · rw [isHttp]
    decide
  · rw [isHttps]
    decide

/-- A slash, or what counts as one in a web address. -/
def IsSlash (c : Char) : Prop :=
  c = '/' ∨ c = '\\'

/-- A link that, apart from what does not count in it, begins with a scheme or with two slashes. -/
def BringsOrigin (link : String) : Prop :=
  (splitScheme (relevant link.toList)).isSome = true ∨
    ∃ first second rest,
      relevant link.toList = first :: second :: rest ∧ IsSlash first ∧ IsSlash second

section SameOrigin

variable (url : Url)

@[simp]
theorem origin_push (texts : List String) : (url.push texts).origin = url.origin :=
  rfl

@[simp]
theorem origin_extend (texts : List String) : (url.extend texts).origin = url.origin :=
  rfl

@[simp]
theorem origin_withPairs (pairs : List (String × String)) :
    (url.withPairs pairs).origin = url.origin :=
  rfl

@[simp]
theorem origin_withPath (segments : List String) (text : List Char) :
    (url.withPath segments text).origin = url.origin :=
  rfl

@[simp]
theorem origin_relativeTail (text : List Char) : (url.relativeTail text).origin = url.origin := by
  unfold relativeTail
  split <;> rfl

end SameOrigin

theorem isSlash_iff {c : Char} : (c == '/' || c == '\\') = true ↔ IsSlash c := by
  simp [IsSlash]

/-- A text without two slashes in front is read relative to the path of an address. -/
theorem origin_of_readRelative {base url : Url} {text : List Char}
    (read : base.readRelative text = .ok url)
    (single : ∀ first second rest, text = first :: second :: rest →
      ¬(IsSlash first ∧ IsSlash second)) : url.origin = base.origin := by
  cases text with
  | nil =>
      obtain rfl := Except.ok.inj read
      exact origin_relativeTail base []
  | cons first rest =>
      simp only [readRelative] at read
      split at read
      · obtain rfl := Except.ok.inj read
        exact origin_relativeTail base _
      · split at read
        · rename_i firstSlash
          cases rest with
          | nil =>
              obtain rfl := Except.ok.inj read
              exact origin_withPath base [] []
          | cons second others =>
              have notSlash : ¬(second == '/' || second == '\\') = true := fun secondSlash =>
                single first second others rfl
                  ⟨isSlash_iff.mp firstSlash, isSlash_iff.mp secondSlash⟩
              simp only [if_neg notSlash] at read
              obtain rfl := Except.ok.inj read
              exact origin_withPath base [] _
        · obtain rfl := Except.ok.inj read
          exact origin_withPath base _ _

/-- A link that brings no origin leads to a place at the origin of the address that it is relative
to. -/
theorem origin_of_join {base url : Url} {link : String} (web : base.IsWeb)
    (joined : base.join link = .ok url) (brings : ¬BringsOrigin link) :
    url.origin = base.origin := by
  have noScheme : splitScheme (relevant link.toList) = none :=
    Option.not_isSome_iff_eq_none.mp fun hasScheme => brings (.inl hasScheme)
  have single : ∀ first second rest, relevant link.toList = first :: second :: rest →
      ¬(IsSlash first ∧ IsSlash second) :=
    fun first second rest same slashes => brings (.inr ⟨first, second, rest, same, slashes⟩)
  unfold join read at joined
  simp only [noScheme, if_neg web.scheme_ne_file] at joined
  split at joined
  · obtain rfl := Except.ok.inj joined
    exact origin_relativeTail base _
  · split at joined
    · cases joined
    · exact origin_of_readRelative joined single

end WebhookSync.Url
