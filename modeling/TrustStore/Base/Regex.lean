import Mathlib.Data.List.Basic

/-!
# Patterns with greedy groups

Support library: a pattern is a sequence of characters and of groups, where a group stands for
`(.*)` of ECMAScript and takes any text without line terminators. A match covers the whole
text. Backtracking gives each group, in order, the longest text that lets the rest match. A
pattern of groups with separators between them splits a text at its last separators.
-/

namespace TrustStore.Base.Regex

/-- The parts of a pattern. -/
inductive Item where
  | char (c : Char)
  | group
  deriving DecidableEq, Repr

/-- The characters that `.` does not match. -/
def isLineTerminator (c : Char) : Bool := c = '\n' || c = '\r'

/-- A group takes one more character if it can, and leaves the text to the rest otherwise. -/
def greedy (rest : List Char → Option (List (List Char))) :
    List Char → Option (List (List Char))
  | [] => (rest []).map ([] :: ·)
  | c :: cs =>
    let stop := (rest (c :: cs)).map ([] :: ·)
    if isLineTerminator c then stop
    else
      match greedy rest cs with
      | some (group :: groups) => some ((c :: group) :: groups)
      | _ => stop

/-- The texts of the groups, if the pattern matches. -/
def regexMatch : List Item → List Char → Option (List (List Char))
  | [], [] => some []
  | [], _ :: _ => none
  | .char _ :: _, [] => none
  | .char c :: items, d :: ds => if c = d then regexMatch items ds else none
  | .group :: items, text => greedy (regexMatch items) text

/-! ### What groups take -/

/-- A text without line terminators. -/
def Plain (text : List Char) : Prop := ∀ c ∈ text, isLineTerminator c = false

instance (text : List Char) : Decidable (Plain text) :=
  List.decidableBAll (fun c => isLineTerminator c = false) text

/-- A sequence is plain if both parts are. -/
theorem plain_append {xs ys : List Char} : Plain (xs ++ ys) ↔ Plain xs ∧ Plain ys := by
  simp only [Plain, List.mem_append, or_imp, forall_and]

/-- A plain text starts with a plain character. -/
theorem plain_cons {c : Char} {cs : List Char} :
    Plain (c :: cs) ↔ isLineTerminator c = false ∧ Plain cs := by
  simp only [Plain, List.mem_cons, forall_eq_or_imp]

/-- The empty text is plain. -/
theorem plain_nil : Plain [] := by
  simp [Plain]

variable {rest : List Char → Option (List (List Char))} {text : List Char}

private theorem greedy_ne_nil (text : List Char) : greedy rest text ≠ some [] := by
  induction text with
  | nil => cases h : rest [] <;> simp [greedy, h]
  | cons c cs ih =>
    rw [greedy]
    split
    · cases h : rest (c :: cs) <;> simp
    · split
      · simp
      · cases h : rest (c :: cs) <;> simp

/-- A group that can take the next character does so wherever the rest still matches. -/
private theorem greedy_cons_some {c : Char} {cs group : List Char} {others : List (List Char)}
    (hc : isLineTerminator c = false) (h : greedy rest cs = some (group :: others)) :
    greedy rest (c :: cs) = some ((c :: group) :: others) := by
  rw [greedy]
  simp [hc, h]

/-- A group that cannot take the next character is empty. -/
private theorem greedy_cons_none {c : Char} {cs : List Char}
    (h : isLineTerminator c = false → greedy rest cs = none) :
    greedy rest (c :: cs) = (rest (c :: cs)).map ([] :: ·) := by
  rw [greedy]
  split
  · rfl
  next hc =>
    rw [h (by simpa using hc)]

/-- The group is a plain text, and the rest matches behind it. -/
theorem greedy_sound {group : List Char} {others : List (List Char)}
    (h : greedy rest text = some (group :: others)) :
    ∃ tail, text = group ++ tail ∧ Plain group ∧ rest tail = some others := by
  induction text generalizing group with
  | nil =>
    rw [greedy, Option.map_eq_some_iff] at h
    obtain ⟨_, hrest, heq⟩ := h
    cases heq
    exact ⟨[], rfl, plain_nil, hrest⟩
  | cons c cs ih =>
    have hstop : (rest (c :: cs)).map ([] :: ·) = some (group :: others) →
        ∃ tail, c :: cs = group ++ tail ∧ Plain group ∧ rest tail = some others := by
      intro hmap
      obtain ⟨_, hrest, heq⟩ := Option.map_eq_some_iff.mp hmap
      cases heq
      exact ⟨c :: cs, rfl, plain_nil, hrest⟩
    by_cases hc : isLineTerminator c = false
    · cases hcs : greedy rest cs with
      | none =>
        rw [greedy_cons_none fun _ => hcs] at h
        exact hstop h
      | some groups =>
        cases groups with
        | nil => exact absurd hcs (greedy_ne_nil cs)
        | cons first others' =>
          rw [greedy_cons_some hc hcs] at h
          cases h
          obtain ⟨tail, htext, hplain, hrest⟩ := ih hcs
          exact ⟨tail, by rw [htext]; rfl, plain_cons.mpr ⟨hc, hplain⟩, hrest⟩
    · rw [greedy_cons_none fun hc' => absurd hc' hc] at h
      exact hstop h

/-- If the rest matches behind a plain text, the group is at least as long. -/
theorem greedy_complete {group tail : List Char} {others : List (List Char)}
    (hplain : Plain group) (hrest : rest tail = some others) :
    ∃ longest others', greedy rest (group ++ tail) = some (longest :: others') ∧
      group.length ≤ longest.length := by
  induction group with
  | nil =>
    cases tail with
    | nil => exact ⟨[], others, by simp [greedy, hrest], Nat.le_refl _⟩
    | cons c cs =>
      by_cases hc : isLineTerminator c = false ∧ greedy rest cs ≠ none
      · obtain ⟨groups, hgroups⟩ := Option.ne_none_iff_exists'.mp hc.2
        cases groups with
        | nil => exact absurd hgroups (greedy_ne_nil cs)
        | cons first others' =>
          exact ⟨_, _, greedy_cons_some hc.1 hgroups, Nat.zero_le _⟩
      · refine ⟨[], others, ?_, Nat.le_refl _⟩
        rw [List.nil_append, greedy_cons_none fun hc' => not_not.mp fun hne => hc ⟨hc', hne⟩,
          hrest, Option.map_some]
  | cons c cs ih =>
    obtain ⟨hc, hcs⟩ := plain_cons.mp hplain
    obtain ⟨longest, others', h, hle⟩ := ih hcs
    exact ⟨c :: longest, others', greedy_cons_some hc h, Nat.succ_le_succ hle⟩

/-! ### Fields -/

/-- Groups with a separator between any two. -/
def fields (c : Char) : Nat → List Item
  | 0 => [.group]
  | n + 1 => .group :: .char c :: fields c n

/-- Fields with a separator between any two, where only the first may contain it. -/
def Splits (c : Char) : Nat → List Char → List (List Char) → Prop
  | 0, text, groups => groups = [text]
  | n + 1, text, groups => ∃ group tail next others, groups = group :: next :: others ∧
      text = group ++ c :: tail ∧ c ∉ next ∧ Splits c n tail (next :: others)

/-- All separators behind the first field are between fields. -/
theorem Splits.count {c : Char} {n : Nat} {first : List Char} {others : List (List Char)}
    (h : Splits c n text (first :: others)) : text.count c = n + first.count c := by
  induction n generalizing text first others with
  | zero =>
    cases h
    rw [Nat.zero_add]
  | succ n ih =>
    obtain ⟨group, tail, next, others', hgroups, htext, hnext, htail⟩ := h
    cases hgroups
    have hcount := ih htail
    rw [htext, List.count_append, List.count_cons_self, hcount, List.count_eq_zero.mpr hnext]
    omega

private theorem splits_cons {c : Char} {n : Nat} {groups : List (List Char)}
    (h : Splits c n text groups) : ∃ first others, groups = first :: others := by
  cases n with
  | zero => exact ⟨_, _, h⟩
  | succ n =>
    obtain ⟨group, _, next, others, hgroups, _⟩ := h
    exact ⟨group, next :: others, hgroups⟩

private theorem splits_tail {c : Char} {n : Nat} {x y tail : List Char}
    {others : List (List Char)} (h : Splits c n tail ((x ++ c :: y) :: others)) :
    ∃ tail', tail = x ++ c :: tail' ∧ Splits c n tail' (y :: others) := by
  cases n with
  | zero =>
    cases h
    exact ⟨y, rfl, rfl⟩
  | succ n =>
    obtain ⟨group, tail', next, others', hgroups, htext, hnext, htail⟩ := h
    cases hgroups
    refine ⟨y ++ c :: tail', by rw [htext, List.append_assoc, List.cons_append], ?_⟩
    exact ⟨y, tail', next, others', rfl, rfl, hnext, htail⟩

private theorem regexMatch_char {c : Char} {items : List Item} {others : List (List Char)} :
    regexMatch (.char c :: items) text = some others ↔
      ∃ tail, text = c :: tail ∧ regexMatch items tail = some others := by
  cases text with
  | nil => simp [regexMatch]
  | cons d ds =>
    rw [regexMatch]
    by_cases hcd : c = d
    · simp [hcd]
    · simp [hcd, Ne.symm hcd]

private theorem greedy_cases {groups : List (List Char)} (h : greedy rest text = some groups) :
    ∃ group tail others, groups = group :: others ∧ text = group ++ tail ∧ Plain group ∧
      rest tail = some others := by
  cases groups with
  | nil => exact absurd h (greedy_ne_nil text)
  | cons group others =>
    obtain ⟨tail, htext, hplain, hrest⟩ := greedy_sound h
    exact ⟨group, tail, others, rfl, htext, hplain, hrest⟩

private theorem regexMatch_group {groups : List (List Char)} :
    regexMatch [.group] text = some groups ↔ Plain text ∧ groups = [text] := by
  have hnil : ∀ {tail : List Char} {others : List (List Char)},
      regexMatch [] tail = some others → tail = [] ∧ others = [] := by
    intro tail others h
    cases tail with
    | nil =>
      cases h
      exact ⟨rfl, rfl⟩
    | cons _ _ => cases h
  have hsound : ∀ {groups : List (List Char)}, regexMatch [.group] text = some groups →
      Plain text ∧ groups = [text] := by
    intro groups h
    obtain ⟨group, tail, others, rfl, htext, hplain, hrest⟩ := greedy_cases h
    obtain ⟨rfl, rfl⟩ := hnil hrest
    rw [List.append_nil] at htext
    rw [htext]
    exact ⟨hplain, rfl⟩
  constructor
  · exact hsound
  · rintro ⟨hplain, rfl⟩
    have hrest : regexMatch [] [] = some [] := rfl
    obtain ⟨longest, others, h, -⟩ := greedy_complete hplain hrest
    rw [List.append_nil] at h
    have hgroups := (hsound h).2
    rw [← hgroups]
    exact h

/-- A plain text with enough separators is split at the last ones. -/
theorem regexMatch_fields {c : Char} (hc : isLineTerminator c = false) {n : Nat}
    {groups : List (List Char)} :
    regexMatch (fields c n) text = some groups ↔ Plain text ∧ Splits c n text groups := by
  induction n generalizing text groups with
  | zero => exact regexMatch_group
  | succ n ih =>
    have hrest : ∀ {tail others}, regexMatch (.char c :: fields c n) tail = some others ↔
        ∃ tail', tail = c :: tail' ∧ Plain tail' ∧ Splits c n tail' others := by
      intro tail others
      simp only [regexMatch_char, ih]
    constructor
    · intro h
      obtain ⟨group, tail, others, rfl, htext, hplain, htail⟩ := greedy_cases h
      obtain ⟨tail', rfl, hplain', hsplits⟩ := hrest.mp htail
      refine ⟨by rw [htext]; exact plain_append.mpr ⟨hplain, plain_cons.mpr ⟨hc, hplain'⟩⟩, ?_⟩
      obtain ⟨next, others, rfl⟩ := splits_cons hsplits
      refine ⟨group, tail', next, others, rfl, htext, ?_, hsplits⟩
      -- a separator in the next field would make the group longer
      intro hmem
      obtain ⟨x, y, rfl⟩ := List.append_of_mem hmem
      obtain ⟨tail'', rfl, hsplits'⟩ := splits_tail hsplits
      obtain ⟨hx, hy⟩ := plain_append.mp hplain'
      have hlonger : Plain (group ++ c :: x) := plain_append.mpr ⟨hplain, plain_cons.mpr ⟨hc, hx⟩⟩
      obtain ⟨longest, others', h', hle⟩ :=
        greedy_complete hlonger (hrest.mpr ⟨tail'', rfl, (plain_cons.mp hy).2, hsplits'⟩)
      rw [List.append_assoc, List.cons_append, ← htext] at h'
      have heq := Option.some.inj (h.symm.trans h')
      cases heq
      rw [List.length_append, List.length_cons] at hle
      omega
    · rintro ⟨hplain, group, tail, next, others, rfl, htext, hnext, hsplits⟩
      rw [htext] at hplain
      obtain ⟨hgroup, htail⟩ := plain_append.mp hplain
      obtain ⟨longest, others', h, hle⟩ :=
        greedy_complete hgroup (hrest.mpr ⟨tail, rfl, (plain_cons.mp htail).2, hsplits⟩)
      rw [← htext] at h
      obtain ⟨_, _, _, heq, htext', -, hrest'⟩ := greedy_cases h
      cases heq
      obtain ⟨tail', rfl, -, hsplits'⟩ := hrest.mp hrest'
      -- a longer group would leave too few separators to the others
      have hlength : group.length = longest.length := by
        rcases List.append_eq_append_iff.mp (htext.symm.trans htext') with
          ⟨more, hlongest, hmore⟩ | ⟨more, hgroup', hmore⟩
        · cases more with
          | nil => rw [hlongest, List.append_nil]
          | cons d x =>
            have htail' : tail = x ++ c :: tail' := (List.cons.inj hmore).2
            obtain ⟨first, others, rfl⟩ := splits_cons hsplits'
            have hcount := hsplits.count
            rw [htail', List.count_append, List.count_cons_self, hsplits'.count,
              List.count_eq_zero.mpr hnext] at hcount
            omega
        · rw [hgroup', List.length_append] at hle ⊢
          omega
      obtain ⟨rfl, heq⟩ := List.append_inj (htext.symm.trans htext') hlength
      cases heq
      have hothers := (hrest.mpr ⟨tail, rfl, (plain_cons.mp htail).2, hsplits⟩).symm.trans hrest'
      cases hothers
      exact h
end TrustStore.Base.Regex
