import TrustStore.Preseed.Configuration
import TrustStore.Sqlite.Store

/-!
# What is taken for a request

A request on the command line is meant to have three fields: an application id, a number and an
answer, `src/core/trust/preseed.h:32–42`. The extraction takes every text that starts like one: it
lets a sign in front of the number pass, which wraps the number around, does not ask for whitespace
between the number and the answer, and leaves alone what follows the answer.
-/

namespace TrustStore.Preseed

open TrustStore.Base
open TrustStore.Base.Istream (Sign)

/-- How an answer is written. -/
def answerText : Answer → List Char
  | .denied => "denied".toList
  | .granted => "granted".toList

/-- A string with exactly three fields: an application id, an unsigned decimal number and an
answer. -/
def IsRequest (s id : String) (number : UInt64) (answer : Answer) : Prop :=
  ∃ numeral, fields s.toList = [id.toList, numeral, answerText answer] ∧ Numeral numeral ∧
    Nat.ofDigitChars 10 numeral 0 = number.toNat

/-- A request is taken for what it says wherever it stands on the command line, and no other string
gets past the parser: it adds nothing to the store, nor does any other request next to it. -/
structure Obeyed (s : String) : Prop where
  accepted : ∀ {id number answer}, IsRequest s id number answer →
    ∀ {σ κ : Type} (env : Environment σ κ) (vm : VariablesMap) (n : Nat), vm.request[n]? = some s →
      (∀ configuration, parseFromCommandLine env vm = .ok configuration →
        configuration.requests[n]? = some ⟨id, ⟨number⟩, env.now n, answer⟩) ∧
      ∀ e, parseFromCommandLine env vm = .error e →
        env.createDefaultStore vm.forService = .error e ∨
          ∃ t ∈ vm.request, t ≠ s ∧ ∃ time, parseRequest time t = .error e
  rejected : (∀ id number answer, ¬ IsRequest s id number answer) →
    ∀ {σ κ : Type} (env : Environment σ κ) (vm : VariablesMap), s ∈ vm.request →
      ∃ e, parseFromCommandLine env vm = .error e ∧
        ∀ store, (run env vm).exec store = (.error e, store)

/-- A text that the extraction takes for a request. -/
structure Line where
  lead : List Char
  app : List Char
  gap : List Char
  sign : Sign
  digits : List Char
  separator : List Char
  answer : Answer
  rest : List Char
  lead_blank : Blank lead
  app_word : Word app
  gap_blank : Blank gap
  gap_ne_nil : gap ≠ []
  numeral : Numeral digits
  small : Nat.ofDigitChars 10 digits 0 < UInt64.size
  separator_blank : Blank separator
  rest_parted : Parted rest

namespace Line

variable (line : Line)

/-- The text itself. -/
def text : List Char :=
  line.lead ++ (line.app ++ (line.gap ++ (line.sign.text ++ (line.digits ++
    (line.separator ++ (answerText line.answer ++ line.rest))))))

/-- The number that is read. -/
def number : UInt64 := Istream.wrapped line.sign (Nat.ofDigitChars 10 line.digits 0)

/-- The request that is read. -/
def request (now : Timestamp) : Request :=
  ⟨String.ofList line.app, ⟨line.number⟩, now, line.answer⟩

/-- The number has a sign, or no whitespace behind it, or the answer is not the last field. -/
def Sloppy : Prop := line.sign ≠ .none ∨ line.separator = [] ∨ ¬ Blank line.rest

end Line

/-- The string is a request but for a sign in front of the number, for no whitespace between the
number and the answer, or for more fields behind the answer. -/
def Overlooked (s : String) : Prop := ∃ line : Line, line.text = s.toList ∧ line.Sloppy

/-! ### Words of a request -/

private theorem word_answerText (answer : Answer) : Word (answerText answer) := by
  cases answer <;> decide

private theorem not_digit_answerText (answer : Answer) :
    ∃ c cs, answerText answer = c :: cs ∧ c.isDigit = false := by
  cases answer <;> exact ⟨_, _, rfl, by decide⟩

/-- A text that is at its end or goes on with whitespace has whitespace in front of a word. -/
private theorem ne_nil_of_parted {gap word rest : List Char}
    (hparted : Parted (gap ++ (word ++ rest))) (hword : Word word) : gap ≠ [] := by
  rintro rfl
  obtain ⟨c, cs, rfl, hc⟩ := hword.eq_cons
  simpa [hc] using hparted c rfl

private theorem parted_of_blank {gap : List Char} (hblank : Blank gap) (hne : gap ≠ [])
    (rest : List Char) : Parted (gap ++ rest) := by
  obtain ⟨c, cs, rfl⟩ := List.exists_cons_of_ne_nil hne
  rintro d hd
  cases hd
  exact hblank c (List.mem_cons_self ..)

/-- The digits of a number end where an answer starts, with whitespace in between or without. -/
private theorem not_digit_head {separator : List Char} (hblank : Blank separator) (answer : Answer)
    (rest : List Char) :
    ∀ c ∈ (separator ++ (answerText answer ++ rest)).head?, c.isDigit = false := by
  cases separator with
  | nil =>
    obtain ⟨c, cs, htext, hc⟩ := not_digit_answerText answer
    simpa [htext] using hc
  | cons c cs =>
    have hc : isSpace c = true := hblank c (List.mem_cons_self ..)
    rintro d hd
    cases hd
    cases hdigit : c.isDigit with
    | false => rfl
    | true => exact absurd hc (by simp [not_isSpace_of_isDigit hdigit])

/-! ### What is extracted -/

variable {i : Istream} {gap rest : List Char}

/-- A feature is extracted as its number. -/
private theorem exec_extractFeature {j : Istream} {n m : UInt64}
    (h : (Istream.extractUInt64 n : Action Istream UInt64).exec i = (.ok m, j)) :
    (extractFeature ⟨n⟩).exec i = (.ok ⟨m⟩, j) := by
  rw [extractFeature, Fallible.exec_bind_ok h]
  rfl

/-- An answer is extracted. -/
private theorem exec_extractAnswer (answer : Answer) (hready : i.Ready)
    (hrest : i.rest = gap ++ (answerText answer ++ rest)) (hgap : Blank gap)
    (hparted : Parted rest) :
    extractAnswer.exec i = (.ok answer, ⟨rest, rest.isEmpty, false⟩) := by
  have hword := Istream.exec_extractString_word Exception hready hrest hgap
    (word_answerText answer) hparted ""
  rw [extractAnswer, Fallible.exec_bind_ok hword]
  cases answer <;> rfl

/-- The exception for anything else in place of an answer. -/
def noAnswer (what : String) : Exception := .logicError ("Could not parse answer: " ++ what)

/-- No answer is extracted from a stream that failed. -/
private theorem exec_extractAnswer_failed (h : i.fail = true) :
    extractAnswer.exec i = (.error (noAnswer ""), i) := by
  rw [extractAnswer, Fallible.exec_bind_ok (Istream.exec_extractString_failed h "")]
  rfl

/-- The extraction of an answer throws, or takes one. -/
private theorem extractAnswer_cases (hready : i.Ready) :
    (∃ what j, extractAnswer.exec i = (.error (noAnswer what), j)) ∨
    ∃ gap answer rest, i.rest = gap ++ (answerText answer ++ rest) ∧ Blank gap ∧ Parted rest := by
  rcases Istream.extractString_cases Exception hready "" with
    ⟨-, hs⟩ | ⟨gap, word, rest, hrest, hgap, -, hparted, hs⟩
  · left
    refine ⟨"", ⟨[], true, true⟩, ?_⟩
    rw [extractAnswer, Fallible.exec_bind_ok hs]
    rfl
  · by_cases hdenied : String.ofList word = "denied"
    · have hword : word = answerText .denied :=
        String.toList_ofList.symm.trans (congrArg String.toList hdenied)
      subst hword
      exact .inr ⟨gap, .denied, rest, hrest, hgap, hparted⟩
    by_cases hgranted : String.ofList word = "granted"
    · have hword : word = answerText .granted :=
        String.toList_ofList.symm.trans (congrArg String.toList hgranted)
      subst hword
      exact .inr ⟨gap, .granted, rest, hrest, hgap, hparted⟩
    · left
      refine ⟨String.ofList word, ⟨rest, rest.isEmpty, false⟩, ?_⟩
      rw [extractAnswer, Fallible.exec_bind_ok hs, if_neg hdenied, if_neg hgranted]
      rfl

/-- A line is taken for its request. -/
theorem parseRequest_line {s : String} {line : Line} (hs : line.text = s.toList)
    (now : Timestamp) : parseRequest now s = .ok (line.request now) := by
  have hparted : Parted (line.gap ++ (line.sign.text ++ (line.digits ++
      (line.separator ++ (answerText line.answer ++ line.rest))))) :=
    parted_of_blank line.gap_blank line.gap_ne_nil _
  have hend : ∀ c ∈ (line.separator ++ (answerText line.answer ++ line.rest)).head?,
      c.isDigit = false :=
    not_digit_head line.separator_blank line.answer line.rest
  have happ := Istream.exec_extractString_word Exception (Istream.ready_ofString s)
    hs.symm line.lead_blank line.app_word hparted ""
  have hnumber := Istream.exec_extractUInt64_numeral Exception line.sign
    (Istream.ready_rest _) rfl line.gap_blank line.numeral hend line.small 0
  have hanswer := exec_extractAnswer line.answer (Istream.ready_rest _) rfl line.separator_blank
    line.rest_parted
  rw [parseRequest, extractRequest, Fallible.exec_bind_ok happ,
    Fallible.exec_bind_ok (exec_extractFeature hnumber), Fallible.exec_bind_ok hanswer]
  rfl

/-- A string that is parsed is a line, and any other makes the parser throw. -/
theorem parseRequest_cases (s : String) (now : Timestamp) :
    (∃ line : Line, line.text = s.toList) ∨
      ∃ what, parseRequest now s = .error (noAnswer what) := by
  rw [parseRequest, extractRequest]
  rcases Istream.extractString_cases Exception (Istream.ready_ofString s) "" with
    ⟨-, happ⟩ | ⟨lead, app, tail, htail, hlead, happword, hparted, happ⟩
  · have hfail : (Istream.mk [] true true).fail = true := rfl
    have hfeature := exec_extractFeature (Istream.exec_extractUInt64_failed hfail 0)
    rw [Fallible.exec_bind_ok happ, Fallible.exec_bind_ok hfeature,
      Fallible.exec_bind_error (exec_extractAnswer_failed hfail)]
    exact .inr ⟨"", rfl⟩
  rw [Fallible.exec_bind_ok happ]
  rcases Istream.extractUInt64_cases Exception (Istream.ready_rest tail) 0 with
    ⟨m, j, hnumber, hfail⟩ | ⟨gap, sign, digits, tail', htail', hgap, hdigits, -, hsmall, hnumber⟩
  · rw [Fallible.exec_bind_ok (exec_extractFeature hnumber),
      Fallible.exec_bind_error (exec_extractAnswer_failed hfail)]
    exact .inr ⟨"", rfl⟩
  rw [Fallible.exec_bind_ok (exec_extractFeature hnumber)]
  rcases extractAnswer_cases (Istream.ready_rest tail') with
    ⟨what, j, hanswer⟩ | ⟨separator, answer, rest, hrest, hseparator, hrestparted⟩
  · rw [Fallible.exec_bind_error hanswer]
    exact .inr ⟨what, rfl⟩
  · left
    cases htail'
    cases hrest
    rw [← List.append_assoc sign.text] at hparted
    exact ⟨⟨lead, app, gap, sign, digits, separator, answer, rest, hlead, happword, hgap,
      ne_nil_of_parted hparted (Istream.word_numeral sign hdigits), hdigits, hsmall, hseparator,
      hrestparted⟩, htail.symm⟩

/-! ### Lines and requests -/

/-- The fields of a line. -/
theorem fields_text (line : Line) : fields line.text = line.app ::
    if line.separator = [] then
      (line.sign.text ++ line.digits ++ answerText line.answer) :: fields line.rest
    else (line.sign.text ++ line.digits) :: answerText line.answer :: fields line.rest := by
  have hnumber : Word (line.sign.text ++ line.digits) := Istream.word_numeral _ line.numeral
  rw [Line.text, fields_append line.lead_blank,
    fields_word line.app_word (parted_of_blank line.gap_blank line.gap_ne_nil _),
    fields_append line.gap_blank, ← List.append_assoc line.sign.text]
  split
  next h =>
    have hword : Word (line.sign.text ++ line.digits ++ answerText line.answer) :=
      hnumber.append (word_answerText line.answer)
    rw [h, List.nil_append, ← List.append_assoc, fields_word hword line.rest_parted]
  next h =>
    rw [fields_word hnumber (parted_of_blank line.separator_blank h _),
      fields_append line.separator_blank,
      fields_word (word_answerText line.answer) line.rest_parted]

/-- A line that is not sloppy says what is read from it. -/
theorem isRequest_of_line {s : String} {line : Line} (hs : line.text = s.toList)
    (h : ¬ line.Sloppy) :
    IsRequest s (String.ofList line.app) line.number line.answer := by
  simp only [Line.Sloppy, not_or, not_not] at h
  obtain ⟨hsign, hseparator, hrest⟩ := h
  refine ⟨line.digits, ?_, line.numeral, ?_⟩
  · rw [← hs, fields_text, if_neg hseparator, fields_blank hrest, hsign, String.toList_ofList]
    rfl
  · rw [Line.number, hsign, Istream.wrapped, UInt64.toNat_ofNat_of_lt' line.small]

/-- A request is a line, and what it says is read from it. -/
theorem line_of_isRequest {s id : String} {number : UInt64} {answer : Answer}
    (h : IsRequest s id number answer) :
    ∃ line : Line, line.text = s.toList ∧ String.ofList line.app = id ∧ line.number = number ∧
      line.answer = answer := by
  obtain ⟨numeral, hfields, hnumeral, hvalue⟩ := h
  obtain ⟨lead, tail, hs, hlead, happ, hparted, htail⟩ := word_of_fields hfields
  obtain ⟨gap, tail', rfl, hgap, hnumber, hparted', htail'⟩ := word_of_fields htail
  obtain ⟨separator, rest, rfl, hseparator, hanswer, hrest, -⟩ := word_of_fields htail'
  have hsmall : Nat.ofDigitChars 10 numeral 0 < UInt64.size := by
    rw [hvalue]
    exact number.toNat_lt_size
  refine ⟨⟨lead, id.toList, gap, .none, numeral, separator, answer, rest, hlead, happ, hgap,
    ne_nil_of_parted hparted hnumber, hnumeral, hsmall, hseparator, hrest⟩, hs.symm,
    String.ofList_toList .., ?_, rfl⟩
  rw [Line.number, Istream.wrapped, hvalue, UInt64.ofNat_toNat]

/-- A sloppy line is not a request. -/
theorem not_isRequest_of_sloppy {s : String} {line : Line} (hs : line.text = s.toList)
    (hsloppy : line.Sloppy) (id : String) (number : UInt64) (answer : Answer) :
    ¬ IsRequest s id number answer := by
  rintro ⟨numeral, hfields, hnumeral, -⟩
  rw [← hs, fields_text, List.cons.injEq] at hfields
  by_cases hseparator : line.separator = []
  · rw [if_pos hseparator, List.cons.injEq] at hfields
    obtain ⟨c, cs, htext, hc⟩ := not_digit_answerText line.answer
    have hmem : c ∈ numeral := by simp [← hfields.2.1, htext]
    exact absurd (hnumeral.2 c hmem) (by simp [hc])
  · rw [if_neg hseparator, List.cons.injEq, List.cons.injEq] at hfields
    obtain ⟨-, hnumber, -, hrest⟩ := hfields
    rcases hsloppy with hsign | hseparator' | hblank
    · have hmem : ∀ c ∈ line.sign.text, c.isDigit = true :=
        fun c hc => hnumeral.2 c (by simp [← hnumber, hc])
      cases hline : line.sign with
      | none => exact hsign hline
      | plus | minus =>
        rw [hline] at hmem
        exact absurd (hmem _ (List.mem_singleton_self _)) (by decide)
    · exact hseparator hseparator'
    · exact hblank (blank_of_fields hrest)

/-! ### Requests on the command line -/

/-- A request is parsed to what it says. -/
theorem parseRequest_of_isRequest {s id : String} {number : UInt64} {answer : Answer}
    (h : IsRequest s id number answer) (now : Timestamp) :
    parseRequest now s = .ok ⟨id, ⟨number⟩, now, answer⟩ := by
  obtain ⟨line, hs, rfl, rfl, rfl⟩ := line_of_isRequest h
  exact parseRequest_line hs now

/-- A string that is neither a request nor overlooked is not parsed at any time. -/
theorem parseRequest_of_not_isRequest {s : String} (h : ¬ Overlooked s)
    (hno : ∀ id number answer, ¬ IsRequest s id number answer) (now : Timestamp) :
    ∃ what, parseRequest now s = .error (noAnswer what) := by
  rcases parseRequest_cases s now with ⟨line, hs⟩ | herror
  · exact absurd (isRequest_of_line hs fun hsloppy => h ⟨line, hs, hsloppy⟩) (hno _ _ _)
  · exact herror

/-- If a string is not parsed at any time then the executable gives up before it adds anything. -/
theorem run_of_not_parsed {σ κ : Type} (env : Environment σ κ) (vm : VariablesMap) {s : String}
    (hs : s ∈ vm.request) (h : ∀ now, ∃ e, parseRequest now s = .error e) :
    ∃ e, parseFromCommandLine env vm = .error e ∧
      ∀ store, (run env vm).exec store = (.error e, store) := by
  cases hparse : parseFromCommandLine env vm with
  | error e =>
    refine ⟨e, rfl, fun store => ?_⟩
    rw [run, hparse, Fallible.exec_throw]
  | ok configuration =>
    obtain ⟨n, hn⟩ := List.mem_iff_getElem?.mp hs
    obtain ⟨r, hr, -⟩ := parseRequests_ok (parseFromCommandLine_ok hparse).2 hn
    obtain ⟨e, he⟩ := h (env.now n)
    cases hr.symm.trans he

/-- An executable on a machine where stores can be created, at one moment of its clock. -/
def environment : Environment Sqlite.Store Sqlite.QueryId where
  createDefaultStore _ := .ok Sqlite.Store.interface
  now _ := 5

/-- One request for the camera service. -/
def oneRequest (s : String) : VariablesMap := ⟨"camera", [s], by simp⟩

private theorem parseFromCommandLine_oneRequest {s : String} {r : Request}
    (h : parseRequest 5 s = .ok r) :
    parseFromCommandLine environment (oneRequest s) = .ok ⟨Sqlite.Store.interface, [r]⟩ := by
  have hrequests : parseRequests environment.now (oneRequest s).request = .ok [r] := by
    rw [oneRequest, parseRequests, show environment.now 0 = 5 from rfl, h]
    rfl
  rw [parseFromCommandLine, hrequests]
  rfl

/-- A sloppy line gets past the parser. -/
private theorem not_obeyed_of_sloppy {s : String} {line : Line} (hs : line.text = s.toList)
    (hsloppy : line.Sloppy) : ¬ Obeyed s := by
  intro hobeyed
  obtain ⟨e, he, -⟩ := hobeyed.rejected (not_isRequest_of_sloppy hs hsloppy) environment
    (oneRequest s) (List.mem_singleton_self s)
  cases (parseFromCommandLine_oneRequest (parseRequest_line hs 5)).symm.trans he

/-- The executable keeps to its grammar on a string if and only if the string is not overlooked. -/
theorem obeyed_iff (s : String) : Obeyed s ↔ ¬ Overlooked s := by
  constructor
  · rintro hobeyed ⟨line, hs, hsloppy⟩
    exact not_obeyed_of_sloppy hs hsloppy hobeyed
  · intro h
    constructor
    · intro id number answer hrequest σ κ env vm n hn
      have hparsed := parseRequest_of_isRequest hrequest
      constructor
      · intro configuration hparse
        obtain ⟨r, hr, hget⟩ := parseRequests_ok (parseFromCommandLine_ok hparse).2 hn
        cases (hparsed (env.now n)).symm.trans hr
        exact hget
      · intro e hparse
        rcases parseFromCommandLine_error hparse with hstore | ⟨t, ht, time, htime⟩
        · exact .inl hstore
        · refine .inr ⟨t, ht, ?_, time, htime⟩
          rintro rfl
          cases (hparsed time).symm.trans htime
    · intro hno σ κ env vm hs
      refine run_of_not_parsed env vm hs fun now => ?_
      obtain ⟨what, hwhat⟩ := parseRequest_of_not_isRequest h hno now
      exact ⟨noAnswer what, hwhat⟩

-- no whitespace behind the number, and a fourth field
example : parseRequest 5 "app 1granted denied" = .ok ⟨"app", ⟨1⟩, 5, .granted⟩ := by decide

/-- A request with a sign in front of its number. -/
def negative : Line where
  lead := []
  app := "does.not.exist.app".toList
  gap := [' ']
  sign := .minus
  digits := ['1']
  separator := [' ']
  answer := .granted
  rest := []
  lead_blank := by decide
  app_word := by decide
  gap_blank := by decide
  gap_ne_nil := by decide
  numeral := by decide
  small := by decide
  separator_blank := by decide
  rest_parted := by decide

/-- The feature −1 is taken for the largest one, and its use is granted. -/
theorem not_obeyed_negative :
    parseRequest 5 "does.not.exist.app -1 granted" =
      .ok ⟨"does.not.exist.app", ⟨18446744073709551615⟩, 5, .granted⟩ ∧
    ¬ Obeyed "does.not.exist.app -1 granted" := by
  have hs : negative.text = "does.not.exist.app -1 granted".toList := by decide
  refine ⟨parseRequest_line hs 5, not_obeyed_of_sloppy hs (.inl ?_)⟩
  exact Sign.noConfusion

end TrustStore.Preseed
