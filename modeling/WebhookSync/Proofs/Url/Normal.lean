import Mathlib.Data.List.Basic
import Mathlib.Data.List.TakeWhile
import WebhookSync.Proofs.Url.Origins
import WebhookSync.Proofs.Url.Segments

/-!
# Addresses of web servers as they are read

What is read of the address of a web server has a host and segments in normal form
(`isNormal_of_parse`).  A slash behind the written form of such an address opens an empty
segment and changes nothing else, unless the path already ends with a slash (`parse_concat_slash`).
-/

namespace WebhookSync.Url

/-! ## Paths -/

theorem isDivider_slash (special : Bool) : isDivider special '/' = true := by
  cases special <;> decide

/-- There is no slash in a part of a path. -/
theorem slash_not_mem_of_mem_splitPath {special : Bool} {text part : List Char}
    (member : part ∈ splitPath special text) : '/' ∉ part := by
  induction text generalizing part with
  | nil =>
      obtain rfl := List.mem_singleton.mp member
      exact List.not_mem_nil
  | cons c rest inductionHypothesis =>
      rw [splitPath] at member
      split at member
      · rcases List.mem_cons.mp member with rfl | inRest
        · exact List.not_mem_nil
        · exact inductionHypothesis inRest
      · rename_i noDivider
        have notSlash : '/' ≠ c := by
          rintro rfl
          exact noDivider (isDivider_slash special)
        split at member
        · obtain rfl := List.mem_singleton.mp member
          simpa using notSlash
        · rename_i first others isSplit
          rw [isSplit] at inductionHypothesis
          rcases List.mem_cons.mp member with rfl | inOthers
          · exact List.not_mem_cons_of_ne_of_not_mem notSlash
              (inductionHypothesis List.mem_cons_self)
          · exact inductionHypothesis (List.mem_cons_of_mem _ inOthers)

theorem splitPath_ne_nil (special : Bool) (text : List Char) : splitPath special text ≠ [] := by
  cases text with
  | nil => simp [splitPath]
  | cons c rest =>
      rw [splitPath]
      split
      · simp
      · split <;> simp

/-- A slash at the end opens an empty part. -/
theorem splitPath_concat_slash (special : Bool) (text : List Char) :
    splitPath special (text ++ ['/']) = splitPath special text ++ [[]] := by
  induction text with
  | nil =>
      simp [splitPath, isDivider_slash]
  | cons c rest inductionHypothesis =>
      rw [List.cons_append, splitPath, splitPath, inductionHypothesis]
      split
      · rfl
      · cases isSplit : splitPath special rest with
        | nil => exact absurd isSplit (splitPath_ne_nil special rest)
        | cons first others => rfl

/-- The segments behind a part of the path of a web address. -/
def behindPart (segments : List String) (part : List Char) : List String :=
  if isAbove part then segments.dropLast
  else if isHere part then segments
  else segments ++ [String.ofList (encode keepsInPath part)]

theorem above_false (segments : List String) : above false segments = segments.dropLast := by
  unfold above
  split <;> rfl

theorem walk_cons (segments : List String) (part : List Char) {others : List (List Char)}
    (nonempty : others ≠ []) :
    walk false segments (part :: others) = walk false (behindPart segments part) others := by
  rw [walk, behindPart, above_false]
  · split
    · rfl
    · split <;> rfl
  · exact nonempty

/-- A path that ends at a place and not at a name has an empty last segment. -/
theorem walk_singleton (segments : List String) (last : List Char) :
    walk false segments [last] =
      if isAbove last || isHere last then behindPart segments last ++ [""]
      else behindPart segments last := by
  rw [walk, behindPart, above_false]
  cases isAbove last <;> cases isHere last <;> rfl

theorem neat_behindPart {segments : List String} (neat : Neat segments) {part : List Char}
    (noSlash : '/' ∉ part) : Neat (behindPart segments part) := by
  have isSegment : ∀ c ∈ encode keepsInPath part, IsSegmentChar c := by
    refine forall_mem_encode isSegmentChar_percent isSegmentChar_hexCapital ?_
    intro c member keeps
    exact ⟨keeps, fun isSlash => noSlash (isSlash ▸ member)⟩
  unfold behindPart
  split
  · exact neat.of_subset (List.dropLast_subset _)
  · split
    · exact neat
    · exact neat.concat (by rwa [String.toList_ofList])

theorem neat_walk {segments : List String} {parts : List (List Char)} (neat : Neat segments)
    (noSlash : ∀ part ∈ parts, '/' ∉ part) : Neat (walk false segments parts) := by
  induction parts generalizing segments with
  | nil =>
      rw [walk]
      exact neat
  | cons part others inductionHypothesis =>
      obtain ⟨notInPart, notInOthers⟩ := List.forall_mem_cons.mp noSlash
      have behind : Neat (behindPart segments part) := neat_behindPart neat notInPart
      by_cases alone : others = []
      · subst alone
        rw [walk_singleton]
        split
        · exact behind.concat_empty
        · exact behind
      · rw [walk_cons segments part alone]
        exact inductionHypothesis behind notInOthers

theorem walk_ne_nil {parts : List (List Char)} (nonempty : parts ≠ []) (segments : List String) :
    walk false segments parts ≠ [] := by
  induction parts generalizing segments with
  | nil => exact absurd rfl nonempty
  | cons part others inductionHypothesis =>
      by_cases alone : others = []
      · subst alone
        rw [walk_singleton]
        split
        · exact List.concat_ne_nil _ _
        · rename_i isName
          rw [Bool.not_eq_true, Bool.or_eq_false_iff] at isName
          rw [behindPart, isName.1, isName.2]
          exact List.concat_ne_nil _ _
      · rw [walk_cons segments part alone]
        exact inductionHypothesis alone _

/-- An empty part at the end of a path that ends at a name adds an empty segment. -/
theorem walk_concat_nil {parts : List (List Char)} (nonempty : parts ≠ []) {segments : List String}
    (endsAtName : (walk false segments parts).getLast? ≠ some "") :
    walk false segments (parts ++ [[]]) = walk false segments parts ++ [""] := by
  induction parts generalizing segments with
  | nil => exact absurd rfl nonempty
  | cons part others inductionHypothesis =>
      rw [List.cons_append, walk_cons segments part (by simp)]
      by_cases alone : others = []
      · subst alone
        rw [walk_singleton] at endsAtName ⊢
        split at endsAtName
        · exact absurd List.getLast?_concat endsAtName
        · rename_i isName
          rw [if_neg isName]
          rfl
      · rw [walk_cons segments part alone] at endsAtName ⊢
        exact inductionHypothesis alone endsAtName

/-! ## What stands in front of the path -/

/-- What stands in front of the path. -/
def authorityOf (scheme : String) (text : List Char) : List Char :=
  text.takeWhile fun c => !endsAuthority (isSpecial scheme) c

/-- The path and what follows it. -/
def behindAuthority (scheme : String) (text : List Char) : List Char :=
  text.dropWhile fun c => !endsAuthority (isSpecial scheme) c

/-- What comes of the text in front of a path, and what is left of it. -/
def ReadsAuthority (scheme : String) (authority : List Char) (url : Url) (left : List Char) :
    Prop :=
  let parts := (splitUserInfo authority).getD ([], authority)
  let found := splitHost false parts.2
  let userInfo := readUserInfo parts.1
  found.1 ≠ [] ∧ ∃ host port, Host.parse found.1 = .ok host ∧ host ≠ .name "" ∧
    readPort scheme found.2 = .ok (port, left) ∧
    url = ⟨scheme, userInfo.1, userInfo.2, some host, port, .segments [], none, none⟩

theorem scheme_of_readAuthority {scheme : String} {text rest : List Char} {url : Url}
    (isRead : readAuthority scheme text = .ok (url, rest)) : url.scheme = scheme := by
  simp only [readAuthority, bind, Except.bind, throw, throwThe, MonadExceptOf.throw, pure,
    Except.pure] at isRead
  repeat' split at isRead
  all_goals cases isRead
  all_goals rfl

/-- What follows the text in front of the path has no part in reading it. -/
theorem readAuthority_eq_ok_iff {scheme : String} (special : isSpecial scheme = true)
    {text rest : List Char} {url : Url} :
    readAuthority scheme text = .ok (url, rest) ↔
      ∃ left, ReadsAuthority scheme (authorityOf scheme text) url left ∧
        rest = left ++ behindAuthority scheme text := by
  simp only [readAuthority, ReadsAuthority, authorityOf, behindAuthority, bind, Except.bind, throw,
    throwThe, MonadExceptOf.throw, pure, Except.pure, special, if_true, Bool.true_and, Bool.true_or,
    Bool.and_true]
  generalize List.takeWhile _ text = authority
  generalize List.dropWhile _ text = behind
  generalize (splitUserInfo authority).getD ([], authority) = parts
  constructor
  · intro isRead
    -- All outcomes but one are faults.
    split at isRead
    · cases isRead
    split at isRead
    · cases isRead
    rename_i visible
    split at isRead
    · cases isRead
    rename_i host parsed
    split at isRead
    · cases isRead
    rename_i named
    split at isRead
    · cases isRead
    rename_i found portRead
    split at isRead
    · cases isRead
    cases isRead
    exact ⟨found.2, ⟨by simpa using visible, host, found.1, parsed, by simpa using named,
      portRead, rfl⟩, rfl⟩
  · rintro ⟨left, ⟨visible, host, port, parsed, named, portRead, rfl⟩, rfl⟩
    have notBare : (decide (authority.head? = some '@') && parts.1.isEmpty && parts.2.isEmpty &&
        !behind.isEmpty) ≠ true := by
      intro bare
      have noHost : parts.2 = [] := by simp_all
      rw [noHost] at visible
      exact visible rfl
    rw [if_neg notBare, if_neg (by simpa using visible)]
    simp [parsed, named, portRead]

/-- A slash of either kind. -/
def isAnySlash (c : Char) : Bool :=
  c == '/' || c == '\\'

/-- A path without the slash that it begins with. -/
def pathBehind (text : List Char) : List Char :=
  if text.head?.any isAnySlash then text.tail else text

/-- In a web address the path begins behind a slash of either kind, or at once. -/
theorem afterSlashes_of_isSpecial {scheme : String} (special : isSpecial scheme = true)
    (text : List Char) :
    afterSlashes scheme text =
      (readAuthority scheme text).map fun found => found.1.withPath [] (pathBehind found.2) := by
  unfold afterSlashes
  cases readAuthority scheme text with
  | error fault => rfl
  | ok found =>
      obtain ⟨start, rest⟩ := found
      simp only [bind, Except.bind, pure, Except.pure, Except.map, special, if_true]
      split
      · rfl
      · rfl
      · rfl
      · rename_i noSlash noBackslash nonempty
        cases rest with
        | nil => exact absurd rfl nonempty
        | cons first others =>
            have notSlash : isAnySlash first = false := by
              rw [isAnySlash, Bool.or_eq_false_iff, beq_eq_false_iff_ne, beq_eq_false_iff_ne]
              exact ⟨fun same => noSlash others (same ▸ rfl),
                fun same => noBackslash others (same ▸ rfl)⟩
            simp [pathBehind, notSlash]

theorem afterSlashes_eq_ok_iff {scheme : String} (special : isSpecial scheme = true)
    {text : List Char} {url : Url} :
    afterSlashes scheme text = .ok url ↔
      ∃ start left, ReadsAuthority scheme (authorityOf scheme text) start left ∧
        url = start.withPath [] (pathBehind (left ++ behindAuthority scheme text)) := by
  rw [afterSlashes_of_isSpecial special]
  constructor
  · intro isRead
    cases found : readAuthority scheme text with
    | error fault =>
        rw [found] at isRead
        cases isRead
    | ok read =>
        obtain ⟨left, readsAuthority, isRest⟩ := (readAuthority_eq_ok_iff special).mp found
        rw [found] at isRead
        exact ⟨read.1, left, readsAuthority, isRest ▸ (Except.ok.inj isRead).symm⟩
  · rintro ⟨start, left, readsAuthority, rfl⟩
    rw [(readAuthority_eq_ok_iff special).mpr ⟨left, readsAuthority, rfl⟩]
    rfl

theorem scheme_of_afterSlashes {scheme : String} {text : List Char} {url : Url}
    (isRead : afterSlashes scheme text = .ok url) : url.scheme = scheme := by
  unfold afterSlashes at isRead
  cases found : readAuthority scheme text with
  | error fault =>
      rw [found] at isRead
      cases isRead
  | ok start =>
      rw [found] at isRead
      have isScheme : start.1.scheme = scheme := scheme_of_readAuthority found
      simp only [bind, Except.bind, pure, Except.pure] at isRead
      repeat' split at isRead
      all_goals obtain rfl := Except.ok.inj isRead
      all_goals exact isScheme

theorem scheme_of_readFile {text : List Char} {url : Url} (isRead : readFile none text = .ok url) :
    url.scheme = "file" := by
  simp only [readFile, readFileHost, bind, Except.bind, pure, Except.pure] at isRead
  repeat' split at isRead
  all_goals cases isRead
  all_goals rfl

/-! ## Whole addresses -/

theorem scheme_of_readAfterScheme {scheme : String} {text : List Char} {url : Url}
    (isRead : readAfterScheme none scheme text = .ok url) : url.scheme = scheme := by
  unfold readAfterScheme at isRead
  split at isRead
  · rename_i isFile
    rw [isFile]
    exact scheme_of_readFile isRead
  · split at isRead
    · exact scheme_of_afterSlashes isRead
    · split at isRead
      · exact scheme_of_afterSlashes isRead
      · obtain rfl := Except.ok.inj isRead
        rfl
      · obtain rfl := Except.ok.inj isRead
        rfl

/-- The address of a web server is read behind its scheme and the slashes there. -/
theorem parse_eq_ok_iff {text : String} {url : Url} (web : url.IsWeb) :
    parse text = .ok url ↔
      ∃ rest, splitScheme (relevant text.toList) = some (url.scheme, rest) ∧
        afterSlashes url.scheme (rest.dropWhile isAnySlash) = .ok url := by
  have behindScheme (rest : List Char) : readAfterScheme none url.scheme rest =
      afterSlashes url.scheme (rest.dropWhile isAnySlash) := by
    simp only [readAfterScheme, if_neg web.scheme_ne_file, if_pos web.isSpecial]
    rfl
  unfold parse read
  dsimp only
  constructor
  · intro isRead
    split at isRead
    · rename_i scheme rest isSplit
      obtain rfl := scheme_of_readAfterScheme isRead
      exact ⟨rest, isSplit, behindScheme rest ▸ isRead⟩
    · cases isRead
  · rintro ⟨rest, isSplit, isRead⟩
    simp only [isSplit, behindScheme]
    exact isRead

/-- An address with a host and with segments in normal form. -/
structure IsNormal (url : Url) : Prop where
  host : url.host.isSome = true
  path : url.path = .segments url.segmentsOf
  nonempty : url.segmentsOf ≠ []
  neat : Neat url.segmentsOf

theorem segmentsOf_withPath {url : Url} (notFile : url.scheme ≠ "file") (segments : List String)
    (text : List Char) :
    (url.withPath segments text).segmentsOf =
      walk false segments
        (splitPath (isSpecial url.scheme) (text.takeWhile fun c => !endsPath c)) := by
  have isFile : (url.scheme == "file") = false := beq_eq_false_iff_ne.mpr notFile
  simp [withPath, segmentsOf, resolvePath, isFile]

theorem isNormal_withPath {url : Url} (host : url.host.isSome = true)
    (notFile : url.scheme ≠ "file") (text : List Char) : (url.withPath [] text).IsNormal where
  host := host
  path := rfl
  nonempty := by
    rw [segmentsOf_withPath notFile]
    exact walk_ne_nil (splitPath_ne_nil _ _) []
  neat := by
    rw [segmentsOf_withPath notFile]
    exact neat_walk .nil fun part member => slash_not_mem_of_mem_splitPath member

/-- What is read of the address of a web server is in normal form. -/
theorem isNormal_of_parse {text : String} {url : Url} (web : url.IsWeb)
    (parsed : parse text = .ok url) : url.IsNormal := by
  obtain ⟨rest, _, isRead⟩ := (parse_eq_ok_iff web).mp parsed
  obtain ⟨start, left, readsAuthority, isUrl⟩ :=
    (afterSlashes_eq_ok_iff web.isSpecial).mp isRead
  obtain ⟨_, host, port, _, _, _, isStart⟩ := readsAuthority
  have hasHost : start.host.isSome = true := by
    rw [isStart]
    rfl
  have notFile : start.scheme ≠ "file" := by
    rw [isStart]
    exact web.scheme_ne_file
  rw [isUrl]
  exact isNormal_withPath hasHost notFile _

/-! ## A slash at the end -/

section Concat

variable {stops : Char → Bool} {c : Char} (stopped : stops c = false) (text : List Char)
include stopped

theorem takeWhile_concat : (text ++ [c]).takeWhile stops = text.takeWhile stops := by
  induction text with
  | nil => simp [stopped]
  | cons first rest inductionHypothesis =>
      rw [List.cons_append, List.takeWhile_cons, List.takeWhile_cons, inductionHypothesis]

theorem dropWhile_concat : (text ++ [c]).dropWhile stops = text.dropWhile stops ++ [c] := by
  induction text with
  | nil => simp [stopped]
  | cons first rest inductionHypothesis =>
      rw [List.cons_append, List.dropWhile_cons, List.dropWhile_cons, inductionHypothesis]
      split <;> rfl

end Concat

/-- Behind a text that ends with a visible character, a slash counts. -/
theorem relevant_concat_slash {front : List Char} {last : Char} (visible : 0x20 < last.toNat) :
    relevant (front ++ [last] ++ ['/']) = relevant (front ++ [last]) ++ ['/'] := by
  have trims {front : List Char} {last : Char} (visible : 0x20 < last.toNat) :
      (((front ++ [last]).dropWhile fun c => c.toNat ≤ 0x20).reverse.dropWhile
        fun c => c.toNat ≤ 0x20).reverse = (front ++ [last]).dropWhile fun c => c.toNat ≤ 0x20 := by
    have stopped : decide (last.toNat ≤ 0x20) = false := decide_eq_false (Nat.not_le.mpr visible)
    rw [dropWhile_concat stopped, List.reverse_concat, List.dropWhile_cons, stopped]
    simp
  unfold relevant
  dsimp only
  rw [trims visible, trims (by decide : 0x20 < '/'.toNat), dropWhile_concat (by decide),
    List.filter_append]
  rfl

theorem splitScheme_concat_slash {text rest : List Char} {scheme : String}
    (isSplit : splitScheme text = some (scheme, rest)) :
    splitScheme (text ++ ['/']) = some (scheme, rest ++ ['/']) := by
  unfold splitScheme at isSplit
  split at isSplit
  · rename_i first others behind isBehind
    have isBehindToo :
        (first :: (others ++ ['/'])).dropWhile isSchemeChar = ':' :: (behind ++ ['/']) := by
      rw [← List.cons_append, dropWhile_concat (by decide), isBehind]
      rfl
    have sameScheme : (first :: (others ++ ['/'])).takeWhile isSchemeChar =
        (first :: others).takeWhile isSchemeChar := by
      rw [← List.cons_append, takeWhile_concat (by decide)]
    unfold splitScheme
    rw [List.cons_append, isBehindToo, sameScheme]
    split at isSplit
    · rename_i isAlpha
      obtain ⟨rfl, rfl⟩ := Prod.mk.inj (Option.some.inj isSplit)
      simp only [if_pos isAlpha]
    · cases isSplit
  · cases isSplit

theorem authorityOf_concat_slash (scheme : String) (text : List Char) :
    authorityOf scheme (text ++ ['/']) = authorityOf scheme text :=
  takeWhile_concat (by simp [endsAuthority, isDivider_slash]) text

theorem behindAuthority_concat_slash (scheme : String) (text : List Char) :
    behindAuthority scheme (text ++ ['/']) = behindAuthority scheme text ++ ['/'] :=
  dropWhile_concat (by simp [endsAuthority, isDivider_slash]) text

theorem pathBehind_concat_slash {text : List Char} (nonempty : text ≠ []) :
    pathBehind (text ++ ['/']) = pathBehind text ++ ['/'] := by
  cases text with
  | nil => exact absurd rfl nonempty
  | cons first rest =>
      unfold pathBehind
      rw [List.cons_append, List.head?_cons, List.head?_cons]
      split <;> rfl

/-- An address without a query and a fragment has been read from a text without their marks. -/
theorem forall_not_endsPath {url : Url} {segments : List String} {text : List Char}
    (noQuery : (url.withPath segments text).query = none)
    (noFragment : (url.withPath segments text).fragment = none) :
    ∀ c ∈ text, (!endsPath c) = true := by
  rw [← List.dropWhile_eq_nil_iff]
  cases behind : text.dropWhile fun c => !endsPath c with
  | nil => rfl
  | cons first rest =>
      have ends : endsPath first = true := by
        have found := List.head?_dropWhile_not (fun c => !endsPath c) text
        rw [behind] at found
        simpa using found
      simp only [withPath, behind] at noQuery noFragment
      rw [endsPath, Bool.or_eq_true, beq_iff_eq, beq_iff_eq] at ends
      rcases ends with rfl | rfl
      · simp [queryAndFragment] at noQuery
      · simp [queryAndFragment] at noFragment

/-- A slash behind a path that ends at a name opens an empty segment. -/
theorem withPath_concat_slash {start : Url} (notFile : start.scheme ≠ "file") {text : List Char}
    (noQuery : (start.withPath [] text).query = none)
    (noFragment : (start.withPath [] text).fragment = none)
    (endsAtName : (start.withPath [] text).segmentsOf.getLast? ≠ some "") :
    start.withPath [] (text ++ ['/']) =
      { start.withPath [] text with
        path := .segments ((start.withPath [] text).segmentsOf ++ [""]) } := by
  have plain : ∀ c ∈ text, (!endsPath c) = true := forall_not_endsPath noQuery noFragment
  have plainToo : ∀ c ∈ text ++ ['/'], (!endsPath c) = true :=
    List.forall_mem_append.mpr ⟨plain, by simp [endsPath]⟩
  have longer : (start.withPath [] (text ++ ['/'])).segmentsOf =
      (start.withPath [] text).segmentsOf ++ [""] := by
    rw [segmentsOf_withPath notFile] at endsAtName ⊢
    rw [segmentsOf_withPath notFile]
    rw [List.takeWhile_eq_self_iff.mpr plain] at endsAtName ⊢
    rw [List.takeWhile_eq_self_iff.mpr plainToo, splitPath_concat_slash,
      walk_concat_nil (splitPath_ne_nil _ _) endsAtName]
  rw [← longer]
  simp only [withPath, List.dropWhile_eq_nil_iff.mpr plain, List.dropWhile_eq_nil_iff.mpr plainToo]
  rfl

theorem ReadsAuthority.ne_nil {scheme : String} {authority left : List Char} {url : Url}
    (reads : ReadsAuthority scheme authority url left) : authority ≠ [] := by
  rintro rfl
  exact reads.1 rfl

theorem afterSlashes_concat_slash {scheme : String} (special : isSpecial scheme = true)
    (notFile : scheme ≠ "file") {text : List Char} {url : Url}
    (isRead : afterSlashes scheme (text.dropWhile isAnySlash) = .ok url)
    (noQuery : url.query = none) (noFragment : url.fragment = none)
    (endsAtName : url.segmentsOf.getLast? ≠ some "") :
    afterSlashes scheme ((text ++ ['/']).dropWhile isAnySlash) =
      .ok { url with path := .segments (url.segmentsOf ++ [""]) } := by
  obtain ⟨start, left, reads, rfl⟩ := (afterSlashes_eq_ok_iff special).mp isRead
  have isScheme : start.scheme = scheme := (scheme_of_afterSlashes isRead :)
  have behindSlashes : (text ++ ['/']).dropWhile isAnySlash =
      text.dropWhile isAnySlash ++ ['/'] := by
    have nonempty : (text.dropWhile isAnySlash).isEmpty = false := by
      rw [List.isEmpty_eq_false_iff]
      intro isNil
      rw [isNil] at reads
      exact reads.ne_nil rfl
    rw [List.dropWhile_append, nonempty, if_neg Bool.false_ne_true]
  have hasPath : left ++ behindAuthority scheme (text.dropWhile isAnySlash) ≠ [] := by
    intro isNil
    rw [isNil, segmentsOf_withPath (isScheme ▸ notFile)] at endsAtName
    exact endsAtName rfl
  refine (afterSlashes_eq_ok_iff special).mpr ⟨start, left, ?_, ?_⟩
  · rwa [behindSlashes, authorityOf_concat_slash]
  · rw [behindSlashes, behindAuthority_concat_slash, ← List.append_assoc,
      pathBehind_concat_slash hasPath]
    exact (withPath_concat_slash (isScheme ▸ notFile) noQuery noFragment endsAtName).symm

/-- A path in normal form that does not end with a slash ends at a name. -/
theorem IsNormal.exists_name {url : Url} (normal : url.IsNormal)
    (endsAtName : url.path.write.getLast? ≠ some '/') :
    ∃ segments last, url.segmentsOf = segments ++ [last] ∧ last ≠ "" := by
  obtain ⟨segments, last, isSegments⟩ : ∃ segments last, url.segmentsOf = segments ++ [last] :=
    (List.eq_nil_or_concat' url.segmentsOf).resolve_left normal.nonempty
  refine ⟨segments, last, isSegments, ?_⟩
  rintro rfl
  refine endsAtName ?_
  rw [normal.path, isSegments, Path.write_concat_empty, List.getLast?_concat]

/-- A slash behind the written form of a web address whose path ends at a name, without a query and
a fragment, opens an empty segment. -/
theorem parse_concat_slash {text : String} {url : Url} (web : url.IsWeb)
    (parsed : parse text = .ok url) (written : url.text = text) (noQuery : url.query = none)
    (noFragment : url.fragment = none) (endsAtName : url.path.write.getLast? ≠ some '/') :
    parse (text ++ "/") = .ok { url with path := .segments (url.segmentsOf ++ [""]) } := by
  have normal : url.IsNormal := isNormal_of_parse web parsed
  obtain ⟨segments, last, isSegments, visible⟩ := normal.exists_name endsAtName
  have isPath : url.path = .segments (segments ++ [last]) := isSegments ▸ normal.path
  have neat : Neat (segments ++ [last]) := isSegments ▸ normal.neat
  obtain ⟨front, c, isWritten, isSegmentChar⟩ := neat.exists_last visible
  have isText : text.toList = url.scheme.toList ++ ':' :: url.writeAuthority ++ front ++ [c] := by
    rw [← written, Url.text, String.toList_ofList, write, isPath, isWritten, noQuery, noFragment]
    simp [writeBehind]
  obtain ⟨rest, isSplit, isRead⟩ := (parse_eq_ok_iff web).mp parsed
  have isSplitToo : splitScheme (relevant (text ++ "/").toList) =
      some (url.scheme, rest ++ ['/']) := by
    refine Eq.trans (congrArg splitScheme ?_) (splitScheme_concat_slash isSplit)
    rw [String.toList_append, isText]
    exact relevant_concat_slash isSegmentChar.visible
  have visibleSegment : url.segmentsOf.getLast? ≠ some "" := by
    rw [isSegments, List.getLast?_concat]
    exact fun same => visible (Option.some.inj same)
  have longer : IsWeb { url with path := .segments (url.segmentsOf ++ [""]) } := web
  exact (parse_eq_ok_iff longer).mpr ⟨rest ++ ['/'], isSplitToo,
    afterSlashes_concat_slash web.isSpecial web.scheme_ne_file isRead noQuery noFragment
      visibleSegment⟩

end WebhookSync.Url
