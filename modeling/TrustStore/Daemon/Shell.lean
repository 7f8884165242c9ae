import TrustStore.Base.Istream
import TrustStore.Remote.Posix

/-!
# The shell of the stub

Models `Shell`, `src/core/trust/daemon.cpp:456–544`, with which `Daemon::Stub::main` feeds requests
to its agent: lines of text come from the standard input in pieces, as they are typed. The shell
reads until it has a line, and then drops what it has read.
-/

namespace TrustStore.Daemon.Shell

open TrustStore.Base
open TrustStore.Base.Istream (Sign)
open TrustStore.Remote.Posix (AsyncError)

variable {σ : Type}

/-- The shell, and what its agent works on. -/
structure State (σ : Type) where
  buffer : List Char
  /-- a read is outstanding -/
  reading : Bool
  printed : List Answer
  state : σ

/-- The answers, what the agent has worked on, and whether a read is outstanding. -/
def State.outcome (s : State σ) : List Answer × σ × Bool := (s.printed, s.state, s.reading)

/-- `Shell::start_read`; `src/core/trust/daemon.cpp:491–506`. -/
def State.startRead (s : State σ) : State σ := { s with reading := true }

/-- `Shell::start`; `src/core/trust/daemon.cpp:475–482`. -/
def start (state : σ) : State σ := State.startRead ⟨[], false, [], state⟩

/-- The numbers at the beginning of the buffer, or zeros; `src/core/trust/daemon.cpp:520–522`. -/
def extractParams : Action Istream RequestParameters := do
  let pid ← Istream.extractInt32 0
  let uid ← Istream.extractUInt32 0
  let feature ← Istream.extractUInt64 0
  return ⟨⟨⟨uid⟩, ⟨pid⟩, ""⟩, ⟨feature⟩, ""⟩

variable (agent : Agent σ) (appIdResolver : Pid → Action σ String)

/-- The question to the agent; `src/core/trust/daemon.cpp:525–527`. -/
def authenticate (params : RequestParameters) : Action σ Answer := do
  let id ← appIdResolver params.application.pid
  agent { params with application := { params.application with id } }

/-- `Shell::read_finished`; `src/core/trust/daemon.cpp:509–532`. -/
def readFinished (ec : Option AsyncError) : Action (State σ) PUnit :=
  if ec = some .operationAborted then return
  else if ec.isSome then modify State.startRead
  else do
    let params ← Fallible.zoom (fun s : State σ => ⟨s.buffer, false, false⟩)
      (fun s i => { s with buffer := i.rest }) extractParams
    let answer ← Fallible.zoom State.state (fun s state => { s with state })
      (authenticate agent appIdResolver params)
    modify fun s => { s with printed := s.printed ++ [answer] }
    modify fun s => { s with buffer := [] }
    modify State.startRead

/-- What an outstanding read gets from the standard input. -/
inductive Event where
  | bytes (text : List Char)
  | fails (ec : AsyncError)

/-- The outstanding read goes on, and its handler runs once there is a line or an error. An
exception that leaves the handler is dropped by the worker; `src/core/trust/runtime.cpp:28–46`. -/
def step (s : State σ) : Event → State σ
  | .bytes text =>
    if s.reading then
      let read := { s with buffer := s.buffer ++ text }
      if '\n' ∈ read.buffer then
        ((readFinished agent appIdResolver none).exec { read with reading := false }).2
      else read
    else s
  | .fails ec =>
    if s.reading then
      ((readFinished agent appIdResolver (some ec)).exec { s with reading := false }).2
    else s

/-- A line with a request. Each number may have a sign, and whitespace or the sign of the next one
is between them. -/
structure Line where
  lead : List Char
  pidSign : Sign
  pidDigits : List Char
  gap : List Char
  uidSign : Sign
  uidDigits : List Char
  gap' : List Char
  featureSign : Sign
  featureDigits : List Char
  rest : List Char
  pid : Pid
  uid : Uid
  lead_blank : Blank lead
  pid_numeral : Numeral pidDigits
  pid_value : pid.value.toInt = Istream.signed pidSign (Nat.ofDigitChars 10 pidDigits 0)
  gap_blank : Blank gap
  gap_parts : gap ≠ [] ∨ uidSign ≠ .none
  uid_numeral : Numeral uidDigits
  uid_value : Istream.valueUInt32 uidSign (Nat.ofDigitChars 10 uidDigits 0) = .ok uid.value
  gap'_blank : Blank gap'
  gap'_parts : gap' ≠ [] ∨ featureSign ≠ .none
  feature_numeral : Numeral featureDigits
  feature_small : Nat.ofDigitChars 10 featureDigits 0 < UInt64.size
  rest_head : ∀ c ∈ rest.head?, c.isDigit = false
  no_newline : '\n' ∉ lead ++ (gap ++ (gap' ++ rest))

namespace Line

variable (line : Line)

/-- The line without its end. -/
def body : List Char :=
  line.lead ++ (line.pidSign.text ++ (line.pidDigits ++ (line.gap ++ (line.uidSign.text ++
    (line.uidDigits ++ (line.gap' ++ (line.featureSign.text ++ (line.featureDigits ++
      line.rest))))))))

/-- The line itself. -/
def text : List Char := line.body ++ ['\n']

/-- The request. -/
def params : RequestParameters where
  application :=
    { uid := line.uid
      pid := line.pid
      id := "" }
  feature := ⟨Istream.wrapped line.featureSign (Nat.ofDigitChars 10 line.featureDigits 0)⟩
  description := ""

end Line

/-- What comes of requests that are made in order, until one of them is left by an exception: the
answers, what the agent has worked on, and whether all of them were answered. -/
def serve : List RequestParameters → σ → List Answer × σ × Bool
  | [], s => ([], s, true)
  | params :: rest, s =>
    match (authenticate agent appIdResolver params).exec s with
    | (.ok answer, t) =>
      let served := serve rest t
      (answer :: served.1, served.2)
    | (.error _, t) => ([], t, false)

/-- A piece of a line, or an error on which the shell reads on. -/
def Event.Piece : Event → Prop
  | .bytes text => ∀ before after, text = before ++ '\n' :: after → after = []
  | .fails ec => ec ≠ .operationAborted

/-- What is typed. -/
def Event.text : Event → List Char
  | .bytes text => text
  | .fails _ => []

variable {agent : Agent σ} {appIdResolver : Pid → Action σ String}

/-! ### One line -/

/-- A number ends where whitespace or the sign of the next one comes. -/
private theorem not_digit_of_gap {gap : List Char} {sign : Sign} (hblank : Blank gap)
    (hparts : gap ≠ [] ∨ sign ≠ .none) (rest : List Char) :
    ∀ c ∈ (gap ++ (sign.text ++ rest)).head?, c.isDigit = false := by
  cases gap with
  | cons c cs =>
    have hc : isSpace c = true := hblank c (List.mem_cons_self ..)
    rintro d hd
    cases hd
    cases hdigit : c.isDigit with
    | false => rfl
    | true => exact absurd hc (by simp [not_isSpace_of_isDigit hdigit])
  | nil =>
    have hsign := hparts.resolve_left (not_not_intro rfl)
    cases sign with
    | none => exact absurd rfl hsign
    | plus | minus =>
      rintro d hd
      cases hd
      decide

private theorem valueInt32_eq {sign : Sign} {magnitude : Nat} {n : Int32}
    (h : n.toInt = Istream.signed sign magnitude) :
    Istream.valueInt32 sign magnitude = .ok n := by
  rw [Istream.valueInt32, ← h, if_neg (Int.not_lt.mpr n.minValue_le_toInt),
    if_neg (Int.not_lt.mpr n.toInt_le), Int32.ofInt_toInt]

/-- From a line, the numbers of its request are extracted. -/
theorem extractParams_text (line : Line) :
    ∃ i, extractParams.exec ⟨line.text, false, false⟩ = (.ok line.params, i) := by
  have hend : ∀ c ∈ (line.rest ++ ['\n']).head?, c.isDigit = false := by
    cases hrest : line.rest with
    | nil =>
      rintro c hc
      cases hc
      decide
    | cons c cs =>
      have hhead := line.rest_head
      rw [hrest] at hhead
      exact hhead
  have htext : line.text = line.lead ++ (line.pidSign.text ++ (line.pidDigits ++ (line.gap ++
      (line.uidSign.text ++ (line.uidDigits ++ (line.gap' ++ (line.featureSign.text ++
        (line.featureDigits ++ (line.rest ++ ['\n']))))))))) := by
    simp only [Line.text, Line.body, List.append_assoc]
  have hpid : (Istream.extractInt32 0 : Action Istream Int32).exec ⟨line.text, false, false⟩ = _ :=
    Istream.exec_extractNumber Exception line.pidSign ⟨rfl, by simp⟩ htext line.lead_blank
      line.pid_numeral (not_digit_of_gap line.gap_blank line.gap_parts _)
      (valueInt32_eq line.pid_value) 0
  have huid : (Istream.extractUInt32 0 : Action Istream UInt32).exec _ = _ :=
    Istream.exec_extractNumber Exception line.uidSign
      (Istream.ready_rest (line.gap ++ (line.uidSign.text ++ (line.uidDigits ++ (line.gap' ++
        (line.featureSign.text ++ (line.featureDigits ++ (line.rest ++ ['\n']))))))))
      rfl line.gap_blank line.uid_numeral (not_digit_of_gap line.gap'_blank line.gap'_parts _)
      line.uid_value 0
  have hfeature := Istream.exec_extractUInt64_numeral Exception line.featureSign
    (Istream.ready_rest (line.gap' ++ (line.featureSign.text ++ (line.featureDigits ++
      (line.rest ++ ['\n'])))))
    rfl line.gap'_blank line.feature_numeral hend line.feature_small 0
  refine ⟨⟨line.rest ++ ['\n'], (line.rest ++ ['\n']).isEmpty, false⟩, ?_⟩
  rw [extractParams, Fallible.exec_bind_ok hpid, Fallible.exec_bind_ok huid,
    Fallible.exec_bind_ok hfeature]
  rfl

/-- When a line was read, its request is made, and the shell reads on if there is an answer. -/
private theorem readFinished_text (line : Line) {s : State σ} (hbuffer : s.buffer = line.text)
    (hreading : s.reading = false) :
    match (authenticate agent appIdResolver line.params).exec s.state with
    | (.ok answer, t) => ((readFinished agent appIdResolver none).exec s).2 =
        ⟨[], true, s.printed ++ [answer], t⟩
    | (.error _, t) => ∃ buffer, ((readFinished agent appIdResolver none).exec s).2 =
        ⟨buffer, false, s.printed, t⟩ := by
  obtain ⟨i, hparams⟩ := extractParams_text line
  rw [← hbuffer] at hparams
  cases hresult : (authenticate agent appIdResolver line.params).exec s.state with
  | mk result t =>
    cases result with
    | ok answer => simp [readFinished, Fallible.zoom, hparams, hresult, State.startRead]
    | error e => exact ⟨i.rest, by simp [readFinished, Fallible.zoom, hparams, hresult, hreading]⟩

/-! ### All lines -/

private theorem newline_of_body (line : Line) : '\n' ∉ line.body := by
  have hnumeral : ∀ {digits : List Char}, Numeral digits → '\n' ∉ digits := fun hdigits hmem =>
    absurd (hdigits.2 _ hmem) (by decide)
  have hsign : ∀ sign : Sign, '\n' ∉ sign.text := fun sign => by cases sign <;> decide
  have hrest := line.no_newline
  simp only [Line.body, List.mem_append, not_or] at hrest ⊢
  exact ⟨hrest.1, hsign _, hnumeral line.pid_numeral, hrest.2.1, hsign _,
    hnumeral line.uid_numeral, hrest.2.2.1, hsign _, hnumeral line.feature_numeral, hrest.2.2.2⟩

/-- The first end of a line is at the same place in equal texts. -/
private theorem newline_unique {a b c d : List Char} (ha : '\n' ∉ a) (hc : '\n' ∉ c)
    (h : a ++ '\n' :: b = c ++ '\n' :: d) : a = c ∧ b = d := by
  induction a generalizing c with
  | nil =>
    cases c with
    | nil => exact ⟨rfl, (List.cons.inj h).2⟩
    | cons x c => exact absurd (List.mem_cons.mpr (.inl (List.cons.inj h).1)) hc
  | cons x a ih =>
    cases c with
    | nil => exact absurd (List.mem_cons.mpr (.inl (List.cons.inj h).1.symm)) ha
    | cons y c =>
      obtain ⟨hxy, htail⟩ := List.cons.inj h
      obtain ⟨hac, hbd⟩ := ih (fun hmem => ha (List.mem_cons_of_mem x hmem))
        (fun hmem => hc (List.mem_cons_of_mem y hmem)) htail
      exact ⟨by rw [hxy, hac], hbd⟩

/-- A shell that does not read takes no notice of anything. -/
private theorem foldl_idle (events : List Event) {s : State σ} (h : s.reading = false) :
    events.foldl (step agent appIdResolver) s = s := by
  induction events with
  | nil => rfl
  | cons event events ih =>
    have hstep : step agent appIdResolver s event = s := by
      cases event <;> simp [step, h]
    rw [List.foldl_cons, hstep, ih]

/-- With what is left of a line to be typed, and more lines, the shell serves them in order. -/
private theorem foldl_step {events : List Event} {lines : List Line} {buffer : List Char}
    (hpieces : ∀ event ∈ events, event.Piece) (hbuffer : '\n' ∉ buffer)
    (htext : buffer ++ events.flatMap Event.text = lines.flatMap Line.text)
    (printed : List Answer) (s : σ) :
    (events.foldl (step agent appIdResolver) ⟨buffer, true, printed, s⟩).outcome =
      (printed ++ (serve agent appIdResolver (lines.map Line.params) s).1,
        (serve agent appIdResolver (lines.map Line.params) s).2) := by
  induction events generalizing buffer lines printed s with
  | nil =>
    cases lines with
    | nil => simp [serve, State.outcome]
    | cons line lines =>
      refine absurd ?_ hbuffer
      rw [List.flatMap_nil, List.append_nil] at htext
      simp [htext, Line.text]
  | cons event events ih =>
    have hrest : ∀ event ∈ events, event.Piece :=
      fun other hother => hpieces other (List.mem_cons_of_mem event hother)
    have hpiece := hpieces event (List.mem_cons_self ..)
    rw [List.foldl_cons]
    cases event with
    | fails ec =>
      have hstep : step agent appIdResolver ⟨buffer, true, printed, s⟩ (.fails ec) =
          ⟨buffer, true, printed, s⟩ := by
        simp [step, readFinished, show ec ≠ .operationAborted from hpiece, State.startRead]
      rw [hstep]
      exact ih hrest hbuffer htext printed s
    | bytes text =>
      rw [List.flatMap_cons, Event.text, ← List.append_assoc] at htext
      by_cases hline : '\n' ∈ buffer ++ text
      · -- the piece ends the first line
        obtain ⟨before, after, rfl⟩ :=
          List.append_of_mem ((List.mem_append.mp hline).resolve_left hbuffer)
        cases hpiece before after rfl
        have hbefore : '\n' ∉ before := by
          intro hmem
          obtain ⟨x, y, rfl⟩ := List.append_of_mem hmem
          have hnil := hpiece x (y ++ ['\n']) (by rw [List.append_assoc, List.cons_append])
          simp at hnil
        cases lines with
        | nil => simp at htext
        | cons line lines =>
          obtain ⟨hbody, hmore⟩ := newline_unique
            (List.not_mem_append hbuffer hbefore) (newline_of_body line)
            (b := events.flatMap Event.text) (d := lines.flatMap Line.text)
            (by simpa [Line.text, List.append_assoc] using htext)
          have hread : buffer ++ (before ++ ['\n']) = line.text := by
            rw [Line.text, ← hbody, List.append_assoc]
          rw [hread] at hline
          have hstep : step agent appIdResolver ⟨buffer, true, printed, s⟩
              (.bytes (before ++ ['\n'])) = ((readFinished agent appIdResolver none).exec
                ⟨line.text, false, printed, s⟩).2 := by
            simp only [step, if_true, hread, if_pos hline]
          have hfinished := @readFinished_text σ agent appIdResolver line
            ⟨line.text, false, printed, s⟩ rfl rfl
          rw [hstep, List.map_cons, serve]
          rcases hresult : (authenticate agent appIdResolver line.params).exec s with
            ⟨e | answer, u⟩
          · rw [hresult] at hfinished
            obtain ⟨buffer', hdead⟩ := hfinished
            rw [hdead, foldl_idle events rfl]
            simp [State.outcome]
          · rw [hresult] at hfinished
            rw [hfinished]
            have hserved := @ih lines [] hrest List.not_mem_nil hmore (printed ++ [answer]) u
            rw [hserved, List.append_assoc, List.singleton_append]
      · have hstep : step agent appIdResolver ⟨buffer, true, printed, s⟩ (.bytes text) =
            ⟨buffer ++ text, true, printed, s⟩ := by
          simp only [step, if_true, if_neg hline]
        rw [hstep]
        exact ih hrest hline htext printed s

/-- Whatever lines are typed, in any pieces that do not go beyond the end of a line, with any errors
of the standard input in between, and whatever the agent and the application id resolver do: the
shell makes the requests on the lines, in order, prints the answers, and reads on, until one of them
is left by an exception. Then it makes no more requests. -/
theorem typed_run {events : List Event} {lines : List Line}
    (hpieces : ∀ event ∈ events, event.Piece)
    (htext : events.flatMap Event.text = lines.flatMap Line.text) (s : σ) :
    (events.foldl (step agent appIdResolver) (start s)).outcome =
      serve agent appIdResolver (lines.map Line.params) s :=
  foldl_step hpieces List.not_mem_nil htext [] s

/-- A request of the process 42. -/
def firstLine : Line where
  lead := "\t".toList
  pidSign := .none
  pidDigits := "42".toList
  gap := " ".toList
  uidSign := .none
  uidDigits := "1000".toList
  gap' := " ".toList
  featureSign := .none
  featureDigits := "1".toList
  rest := []
  pid := ⟨42⟩
  uid := ⟨1000⟩
  lead_blank := by decide
  pid_numeral := by decide
  pid_value := by decide
  gap_blank := by decide
  gap_parts := by decide
  uid_numeral := by decide
  uid_value := by decide
  gap'_blank := by decide
  gap'_parts := by decide
  feature_numeral := by decide
  feature_small := by decide
  rest_head := nofun
  no_newline := by decide

/-- A request of no process. -/
def secondLine : Line :=
  { firstLine with
    pidSign := .minus
    pidDigits := "1".toList
    pid := ⟨-1⟩
    gap := "".toList
    uidSign := .plus
    pid_numeral := by decide
    pid_value := by decide
    gap_blank := by decide
    gap_parts := by decide
    uid_value := by decide
    no_newline := by decide }

/-- The first line is typed in two pieces, and then the other one twice. -/
def typed : List Event :=
  [.bytes "\t42 10".toList, .fails .other, .bytes "00 1\n".toList, .bytes "\t-1+1000 1\n".toList,
    .bytes "\t-1+1000 1\n".toList]

/-- The second request is left by an exception, and the third one is not made. -/
theorem typed_run_throws :
    (typed.foldl (step (fun params => do
        modify (· ++ [params.application.id])
        return .granted) fun pid => if pid = ⟨42⟩ then return "app" else throw .outOfRange)
      (start [])).outcome = ([.granted], ["app"], false) := by
  have hpieces : ∀ event ∈ typed, event.Piece := by
    have hpiece : ∀ text : List Char, '\n' ∉ text → (Event.bytes (text ++ ['\n'])).Piece := by
      intro text hmem before after h
      rcases List.eq_nil_or_concat after with rfl | ⟨after, c, rfl⟩
      · rfl
      · refine absurd ?_ hmem
        rw [List.concat_eq_append, ← List.cons_append, ← List.append_assoc] at h
        rw [(List.append_inj' h rfl).1]
        simp
    intro event hmem
    simp only [typed, List.mem_cons, List.not_mem_nil, or_false] at hmem
    rcases hmem with rfl | rfl | rfl | rfl | rfl
    · rintro before after h
      exact absurd (h ▸ List.mem_append_right before (List.mem_cons_self ..) :
        '\n' ∈ "\t42 10".toList) (by decide)
    · exact nofun
    · exact hpiece "00 1".toList (by decide)
    · exact hpiece "\t-1+1000 1".toList (by decide)
    · exact hpiece "\t-1+1000 1".toList (by decide)
  have htext : typed.flatMap Event.text =
      [firstLine, secondLine, secondLine].flatMap Line.text := by decide
  rw [typed_run hpieces htext]
  rfl

end TrustStore.Daemon.Shell
