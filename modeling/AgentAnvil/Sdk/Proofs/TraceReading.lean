/-
What is read back of a trace that was written.

Of a whole file, what was emitted: the list of envelopes the calls returned
(`events_read_back`). Of a file that was cut inside a line, nothing: both
readers raise, or, where only the newline is missing, also return the event
that was cut (`torn_trace`).

One lemma carries both, `readLines_append`: the reader takes the complete
lines one event at a time and goes on with what comes after them.
-/
import AgentAnvil.Sdk.TraceFile

namespace AgentAnvil.Sdk

open Fs

-- ==================================================== statement vocabulary

/-- A call on the writer. -/
inductive WriterCall (δ : Type) where
  | setStep (step : Int)
  | emit (type : EventType) (data : δ)

namespace WriterCall

variable {δ : Type}

/-- The envelopes a call returns. -/
def perform : WriterCall δ → Py (EventWriter δ) (List (EventEnvelope δ))
  | setStep step => do
      EventWriter.setStep step
      return []
  | emit type data => do
      let envelope ← EventWriter.emit type data
      return [envelope]

def performAll :
    List (WriterCall δ) → Py (EventWriter δ) (List (EventEnvelope δ))
  | [] => return []
  | call :: calls => do
      let here ← call.perform
      let later ← performAll calls
      return here ++ later

/-- What each emit is asked to write, with the step that is current. -/
def asked : Int → List (WriterCall δ) → List (Int × EventType × δ)
  | _, [] => []
  | _, setStep step :: calls => asked step calls
  | step, emit type data :: calls => (step, type, data) :: asked step calls

end WriterCall

/-- What an envelope was asked to hold. -/
def EventEnvelope.request {δ : Type} (e : EventEnvelope δ) :
    Int × EventType × δ :=
  (e.step, e.type, e.data)

/-- Byte `n` of the file is inside the line of `e`, which comes after those
of `front`. -/
structure CutIn (t : JsonText) (emitted front : List JsonEvent)
    (e : JsonEvent) (n : Nat) : Prop where
  line : ∃ later, emitted = front ++ e :: later
  start : (Utf8.encode (eventsText t front)).length < n
  stop : n < (Utf8.encode (eventsText t (front ++ [e]))).length

-- =============================================================== the writer

section

variable {δ : Type}

open WriterCall

/-- While the clock lasts, and where the file takes every event, the calls
return, and what they return is what they have written. -/
theorem performAll_of_lasts {calls : List (WriterCall δ)}
    {w : EventWriter δ} (htakes : w.Takes)
    (h : w.clock.Lasts (asked w.step calls).length) :
    ∃ emitted w', performAll calls w = (.ok emitted, w') ∧
      w'.lines = w.lines ++ emitted ∧
      emitted.map EventEnvelope.request = asked w.step calls ∧
      ∀ e ∈ emitted, e.schema = SCHEMA ∧ e.taskId = w.taskId := by
  induction calls generalizing w with
  | nil =>
      exact ⟨[], w, rfl, (List.append_nil _).symm, rfl,
        fun e he => absurd he List.not_mem_nil⟩
  | cons call calls ih =>
      cases call with
      | setStep step =>
          obtain ⟨emitted, w', hrun, hlines, hasked, htask⟩ :=
            ih (w := { w with step }) htakes h
          refine ⟨emitted, w', ?_, hlines, hasked, htask⟩
          rw [performAll, Py.bind_ok (show (setStep step).perform w
            = (.ok [], { w with step }) from rfl), Py.bind_ok hrun]
          rfl
      | emit type data =>
          have hnow : w.clock.Lasts 1 := by
            refine Clock.Lasts.mono h ?_
            rw [asked, List.length_cons]
            omega
          have hemit := EventWriter.emit_of_lasts hnow htakes type data
          obtain ⟨emitted, w', hrun, hlines, hasked, htask⟩ :=
            ih (w := w.written type data) htakes (Clock.Lasts.afterEmit h)
          refine ⟨w.envelope w.clock.stamp type data :: emitted, w', ?_, ?_,
            ?_, ?_⟩
          · have hcall : (emit type data).perform w
                = (.ok [w.envelope w.clock.stamp type data],
                  w.written type data) := by
              rw [WriterCall.perform, Py.bind_ok hemit]
              rfl
            rw [performAll, Py.bind_ok hcall, Py.bind_ok hrun]
            rfl
          · rw [hlines, EventWriter.written, List.append_assoc]
            rfl
          · rw [List.map_cons, hasked]
            rfl
          · intro e he
            rcases List.mem_cons.mp he with rfl | he
            · exact ⟨rfl, rfl⟩
            · exact htask e he

end

-- =============================================================== the reader

section

variable {t : JsonText}

theorem eventsText_append (events later : List JsonEvent) :
    eventsText t (events ++ later)
      = eventsText t events ++ eventsText t later :=
  List.flatMap_append

/-- Lines without carriage returns make a text without any, so universal
newlines leave it. -/
theorem no_cr_eventsText {events : List JsonEvent}
    (h : ∀ e ∈ events, t.Writes e.dump) : '\r' ∉ eventsText t events := by
  intro hmem
  obtain ⟨e, he, hline⟩ := List.mem_flatMap.mp hmem
  rcases List.mem_append.mp hline with hin | hin
  · exact (h e he).oneLine.2 hin
  · cases List.mem_singleton.mp hin

/-- A line that is an object is stripped of its newline only. -/
theorem strip_eventLine {e : JsonEvent} (h : t.Writes e.dump)
    (blanks : List Char) (hblanks : ∀ b ∈ blanks, Lines.isSpace b = true) :
    Lines.strip (t.dumps e.dump ++ blanks) = t.dumps e.dump := by
  obtain ⟨inside, hinside⟩ := h.object
  rw [hinside, List.append_assoc]
  exact Lines.strip_append (by decide) (by decide) inside hblanks

theorem dumps_ne_nil {e : JsonEvent} (h : t.Writes e.dump) :
    t.dumps e.dump ≠ [] := by
  obtain ⟨inside, hinside⟩ := h.object
  rw [hinside]
  exact List.cons_ne_nil _ _

/-- The reader takes an event from its line. -/
theorem readLines_cons (hints : KeepsInts t.int) {e : JsonEvent}
    (h : t.Writes e.dump) (blanks : List Char)
    (hblanks : ∀ b ∈ blanks, Lines.isSpace b = true)
    (rest : List (List Char)) :
    readLines t ((t.dumps e.dump ++ blanks) :: rest)
      = (readLines t rest).map (e :: ·) := by
  rw [readLines, strip_eventLine h blanks hblanks, if_neg (dumps_ne_nil h),
    h.inverse]
  show (EventEnvelope.modelValidate t e.dump >>= _) = _
  rw [modelValidate_dump hints]
  rfl

/-- The reader takes the events of the complete lines, and goes on. -/
theorem readLines_append (hints : KeepsInts t.int) {events : List JsonEvent}
    (h : ∀ e ∈ events, t.Writes e.dump) (tail : List Char) :
    readLines t (Lines.fileLines (eventsText t events ++ tail))
      = (readLines t (Lines.fileLines tail)).map (events ++ ·) := by
  induction events with
  | nil =>
      show readLines t (Lines.fileLines tail) = _
      cases readLines t (Lines.fileLines tail) <;> rfl
  | cons e events ih =>
      have he := h e List.mem_cons_self
      have hsplit : eventsText t (e :: events) ++ tail
          = t.dumps e.dump ++ '\n' :: (eventsText t events ++ tail) := by
        unfold eventsText
        rw [List.flatMap_cons, eventLine, List.append_assoc,
          List.append_assoc]
        rfl
      rw [hsplit, Lines.fileLines_append he.oneLine.1,
        readLines_cons hints he ['\n'] (by simp [Lines.isSpace]),
        ih fun e' he' => h e' (List.mem_cons_of_mem e he')]
      cases readLines t (Lines.fileLines tail) <;> rfl

/-- Reading a file of complete lines. -/
theorem parseEvents_complete (hints : KeepsInts t.int) {events : List JsonEvent}
    (h : ∀ e ∈ events, t.Writes e.dump) :
    parseEvents t (Utf8.encode (eventsText t events)) = .ok events := by
  have hread := readLines_append hints h []
  rw [List.append_nil] at hread
  rw [parseEvents, Utf8.decode_encode]
  show readLines t _ = _
  rw [Lines.universalNewlines_of_no_cr (no_cr_eventsText h), hread,
    Lines.fileLines, readLines]
  show Except.ok (events ++ []) = _
  rw [List.append_nil]

variable {d : Disk} {path : Location} {bytes : List UInt8}

/-- Reading a trace opens its file and parses the bytes. -/
theorem readEvents_file (hsound : d.Sound)
    (hfile : d.tree.node path = some (.file bytes)) :
    readEvents t path d
      = (parseEvents t bytes, d.called.logged (.read path)) := by
  unfold readEvents
  rw [Py.bind_ok (readBytes_ok hsound hfile)]
  rfl

/-- A trace is loaded of the events that are read. -/
theorem loadTrace_file (hsound : d.Sound)
    (hfile : d.tree.node path = some (.file bytes)) :
    (loadTrace t path d).1 = (parseEvents t bytes).map Trace.of := by
  have hpath : eventsPath path d = (.ok path, d.called) := by
    unfold eventsPath
    rw [Py.bind_ok (isDir_ok hsound), hfile]
    rfl
  have hisfile : isFile path d.called = (.ok true, d.called.called) := by
    rw [isFile_ok (d := d.called) hsound, Disk.called_tree, hfile]
    rfl
  have hread : readEvents t path d.called.called
      = (parseEvents t bytes, d.called.called.called.logged (.read path)) :=
    readEvents_file hsound hfile
  unfold loadTrace
  rw [Py.bind_ok hpath, Py.bind_ok hisfile]
  show ((readEvents t path >>= fun events => pure (Trace.of events))
    d.called.called).1 = _
  cases hevents : parseEvents t bytes with
  | ok events =>
      rw [hevents] at hread
      rw [Py.bind_ok hread]
      rfl
  | error exc =>
      rw [hevents] at hread
      rw [Py.bind_error hread]
      rfl

end

-- =========================================================== a whole trace

open WriterCall in
/-- Reading a complete trace gives back what the calls returned, each event
with the step that was current. -/
theorem events_read_back {t : JsonText} (hints : KeepsInts t.int)
    (taskId : String) {clock : Clock}
    {calls : List (WriterCall (List (String × Json)))}
    (hclock : clock.Lasts (asked 0 calls).length) :
    ∃ emitted w, performAll calls (.new taskId clock) = (.ok emitted, w) ∧
      emitted.map EventEnvelope.request = asked 0 calls ∧
      (∀ e ∈ emitted, e.schema = SCHEMA ∧ e.taskId = taskId) ∧
      ((∀ e ∈ emitted, t.Writes e.dump) →
        ∀ (d : Disk) (path : Location), d.Sound →
          d.tree.node path = some (.file (w.file t)) →
          (readEvents t path d).1 = .ok emitted) := by
  obtain ⟨emitted, w, hrun, hlines, hasked, htask⟩ :=
    performAll_of_lasts (w := .new taskId clock) (fun _ _ => rfl) hclock
  refine ⟨emitted, w, hrun, hasked, htask, ?_⟩
  intro hwrites d path hsound hfile
  have hfile' : w.file t = Utf8.encode (eventsText t emitted) := by
    unfold EventWriter.file
    rw [hlines]
    rfl
  rw [readEvents_file hsound hfile, hfile']
  exact parseEvents_complete hints hwrites

-- ============================================================ a torn trace

section

variable {t : JsonText} {e : JsonEvent}

/-- A line that is cut, short of its newline too, is no event. -/
theorem readLines_torn (h : t.Writes e.dump) (hshort : t.NoShorter e.dump)
    {p : List Char} (hp : p <+: t.dumps e.dump) (hne : p ≠ [])
    (hcut : p ≠ t.dumps e.dump) :
    ∃ exc, readLines t (Lines.fileLines p) = .error exc := by
  obtain ⟨inside, hinside⟩ := h.object
  have hline : '\n' ∉ p := fun hmem => h.oneLine.1 (hp.subset hmem)
  cases p with
  | nil => exact absurd rfl hne
  | cons c cs =>
      -- it starts with the brace, so stripping leaves some of it
      have hc : Lines.isSpace c = false := by
        rw [hinside] at hp
        rw [(List.cons_prefix_cons.mp hp).1]
        rfl
      obtain ⟨hstrip, hstripped⟩ := Lines.strip_cons hc cs
      have hwhole : Lines.strip (c :: cs) ≠ t.dumps e.dump := by
        intro heq
        rw [heq] at hstrip
        exact hcut (hp.eq_of_length_le hstrip.length_le)
      obtain ⟨exc, hexc⟩ := hshort _ (hstrip.trans hp) hstripped hwhole
      refine ⟨exc, ?_⟩
      rw [Lines.fileLines_last hline hne, readLines, if_neg hstripped, hexc]
      rfl

/-- A line's bytes are its text's and a newline's. -/
theorem eventLine_encode (t : JsonText) (e : JsonEvent) :
    Utf8.encode (eventLine t e)
      = Utf8.encode (t.dumps e.dump) ++ [0x0a] := by
  unfold eventLine
  rw [Utf8.encode_append]
  rfl

/-- The front of a line that is a text: the object, or the front of it. -/
theorem front_of_line {i : Nat} {p : List Char}
    (hi : i < (Utf8.encode (eventLine t e)).length)
    (hp : (Utf8.encode (eventLine t e)).take i = Utf8.encode p) :
    p <+: t.dumps e.dump ∧
      (p = t.dumps e.dump ↔ i + 1 = (Utf8.encode (eventLine t e)).length) := by
  have hlen : (Utf8.encode (eventLine t e)).length
      = (Utf8.encode (t.dumps e.dump)).length + 1 := by
    rw [eventLine_encode, List.length_append]
    rfl
  have htake : (Utf8.encode (t.dumps e.dump)).take i = Utf8.encode p := by
    rw [← hp, eventLine_encode, List.take_append_of_le_length (by omega)]
  have hrest : Utf8.encode p ++ (Utf8.encode (t.dumps e.dump)).drop i
      = Utf8.encode (t.dumps e.dump) := by
    rw [← htake, List.take_append_drop]
  obtain ⟨q, hq, hdrop⟩ := Utf8.encode_append_eq hrest
  refine ⟨⟨q, hq.symm⟩, ?_⟩
  constructor
  · rintro rfl
    have := congrArg List.length htake
    rw [List.length_take] at this
    omega
  · intro hlast
    apply Utf8.encode_injective
    rw [← htake, List.take_of_length_le (by omega)]

variable {emitted front : List JsonEvent} {n : Nat}

/-- The bytes in front of a cut. -/
theorem CutIn.bytes (h : CutIn t emitted front e n) :
    (Utf8.encode (eventsText t emitted)).take n
      = Utf8.encode (eventsText t front)
        ++ (Utf8.encode (eventLine t e)).take
          (n - (Utf8.encode (eventsText t front)).length) := by
  obtain ⟨later, rfl⟩ := h.line
  have hstart := h.start
  have hstop := h.stop
  have hline : eventsText t [e] = eventLine t e := List.append_nil _
  rw [eventsText_append, Utf8.encode_append, List.length_append,
    hline] at hstop
  rw [← List.singleton_append, eventsText_append, eventsText_append, hline,
    Utf8.encode_append, Utf8.encode_append, List.take_append,
    List.take_of_length_le (by omega), List.take_append_of_le_length (by omega)]

/-- What a file that was cut decodes to: the lines in front, and the object
of the line that was cut, or the front of it. -/
theorem CutIn.decode (h : CutIn t emitted front e n) {text : List Char}
    (htext : Utf8.decode ((Utf8.encode (eventsText t emitted)).take n)
      = some text) :
    ∃ p, text = eventsText t front ++ p ∧ p ≠ [] ∧ p <+: t.dumps e.dump ∧
      (p = t.dumps e.dump
        ↔ n + 1 = (Utf8.encode (eventsText t (front ++ [e]))).length) := by
  have hbytes := Utf8.decode_eq_some.mp htext
  rw [h.bytes] at hbytes
  obtain ⟨p, rfl, hp⟩ := Utf8.encode_append_eq hbytes
  have hline : eventsText t [e] = eventLine t e := List.append_nil _
  have hlen : (Utf8.encode (eventsText t (front ++ [e]))).length
      = (Utf8.encode (eventsText t front)).length
        + (Utf8.encode (eventLine t e)).length := by
    rw [eventsText_append, Utf8.encode_append, List.length_append, hline]
  have hstart := h.start
  have hstop := h.stop
  have hfront := front_of_line (by omega) hp
  refine ⟨p, rfl, ?_, hfront.1, hfront.2.trans ?_⟩
  · rintro rfl
    have hlength := congrArg List.length hp
    rw [List.length_take] at hlength
    have hnil : (Utf8.encode []).length = 0 := rfl
    omega
  · rw [hlen]
    omega

/-- A cut leaves events that were all written. -/
theorem CutIn.writes (h : CutIn t emitted front e n)
    (hwrites : ∀ e ∈ emitted, t.Writes e.dump) :
    (∀ e ∈ front, t.Writes e.dump) ∧ t.Writes e.dump := by
  obtain ⟨later, rfl⟩ := h.line
  exact ⟨fun e' he' => hwrites e' (List.mem_append_left _ he'),
    hwrites e (List.mem_append_right _ List.mem_cons_self)⟩

/-- The reader takes the lines in front of the cut, and goes on with what is
left of the line that was cut. -/
theorem readLines_cut (hints : KeepsInts t.int) (h : CutIn t emitted front e n)
    (hwrites : ∀ e ∈ emitted, t.Writes e.dump) {p : List Char}
    (hp : p <+: t.dumps e.dump) :
    readLines t (Lines.fileLines
        (Lines.universalNewlines (eventsText t front ++ p)))
      = (readLines t (Lines.fileLines p)).map (front ++ ·) := by
  obtain ⟨hfront, hline⟩ := h.writes hwrites
  rw [Lines.universalNewlines_of_no_cr, readLines_append hints hfront]
  intro hmem
  rcases List.mem_append.mp hmem with hin | hin
  · exact no_cr_eventsText hfront hin
  · exact hline.oneLine.2 (hp.subset hin)

/-- A cut in an object leaves a file that no events are read of. -/
theorem parseEvents_torn (hints : KeepsInts t.int)
    (h : CutIn t emitted front e n)
    (hwrites : ∀ e ∈ emitted, t.Writes e.dump) (hshort : t.NoShorter e.dump)
    (hn : n + 1 ≠ (Utf8.encode (eventsText t (front ++ [e]))).length) :
    ∃ exc, parseEvents t ((Utf8.encode (eventsText t emitted)).take n)
      = .error exc := by
  rw [parseEvents]
  cases htext : Utf8.decode ((Utf8.encode (eventsText t emitted)).take n) with
  | none => exact ⟨_, rfl⟩
  | some text =>
      obtain ⟨p, rfl, hne, hp, hwhole⟩ := h.decode htext
      obtain ⟨exc, hexc⟩ := readLines_torn (h.writes hwrites).2 hshort hp hne
        (fun heq => hn (hwhole.mp heq))
      refine ⟨exc, ?_⟩
      show readLines t _ = _
      rw [readLines_cut hints h hwrites hp, hexc]
      rfl

/-- A cut that takes the newline only leaves the event to be read. -/
theorem parseEvents_unterminated (hints : KeepsInts t.int)
    (h : CutIn t emitted front e n)
    (hwrites : ∀ e ∈ emitted, t.Writes e.dump)
    (hn : n + 1 = (Utf8.encode (eventsText t (front ++ [e]))).length) :
    parseEvents t ((Utf8.encode (eventsText t emitted)).take n)
      = .ok (front ++ [e]) := by
  have hobject := (h.writes hwrites).2
  have hline : eventsText t [e] = eventLine t e := List.append_nil _
  have hbytes : (Utf8.encode (eventsText t emitted)).take n
      = Utf8.encode (eventsText t front ++ t.dumps e.dump) := by
    rw [eventsText_append, Utf8.encode_append, List.length_append, hline,
      eventLine_encode, List.length_append, List.length_singleton] at hn
    rw [h.bytes, Utf8.encode_append, eventLine_encode,
      List.take_append_of_le_length (by omega),
      List.take_of_length_le (by omega)]
  have hread := readLines_cons hints hobject []
    (fun b hb => absurd hb List.not_mem_nil) []
  rw [List.append_nil] at hread
  rw [parseEvents, hbytes, Utf8.decode_encode]
  show readLines t _ = _
  rw [readLines_cut hints h hwrites List.prefix_rfl,
    Lines.fileLines_last hobject.oneLine.1 (dumps_ne_nil hobject), hread]
  rfl

end

open WriterCall in
/-- Of a trace that was cut inside a line neither reader returns the events
of the lines in front of the cut: both raise, or, if only the newline is
missing, they return the event that was cut as well. -/
theorem torn_trace {t : JsonText} (hints : KeepsInts t.int) (taskId : String)
    {clock : Clock} {calls : List (WriterCall (List (String × Json)))}
    (hclock : clock.Lasts (asked 0 calls).length) :
    ∃ emitted w, performAll calls (.new taskId clock) = (.ok emitted, w) ∧
      ((∀ e ∈ emitted, t.Writes e.dump ∧ t.NoShorter e.dump) →
        ∀ front e n, CutIn t emitted front e n →
          ∀ (d : Disk) (path : Location), d.Sound →
            d.tree.node path = some (.file ((w.file t).take n)) →
            (readEvents t path d).1 ≠ .ok front ∧
            (loadTrace t path d).1 ≠ .ok (Trace.of front) ∧
            if n + 1 = (Utf8.encode (eventsText t (front ++ [e]))).length then
              (readEvents t path d).1 = .ok (front ++ [e]) ∧
              (loadTrace t path d).1 = .ok (Trace.of (front ++ [e]))
            else ∃ exc, (readEvents t path d).1 = .error exc ∧
              (loadTrace t path d).1 = .error exc) := by
  obtain ⟨emitted, w, hrun, hlines, -, -⟩ :=
    performAll_of_lasts (w := .new taskId clock) (fun _ _ => rfl) hclock
  refine ⟨emitted, w, hrun, ?_⟩
  intro htext front e n hcut d path hsound hfile
  have hwrites : ∀ e ∈ emitted, t.Writes e.dump := fun e he => (htext e he).1
  have hshort : t.NoShorter e.dump := by
    obtain ⟨later, rfl⟩ := hcut.line
    exact (htext e (List.mem_append_right _ List.mem_cons_self)).2
  have hwhole : w.file t = Utf8.encode (eventsText t emitted) := by
    unfold EventWriter.file
    rw [hlines]
    rfl
  rw [readEvents_file hsound hfile, loadTrace_file hsound hfile, hwhole]
  by_cases hn : n + 1 = (Utf8.encode (eventsText t (front ++ [e]))).length
  · rw [if_pos hn, parseEvents_unterminated hints hcut hwrites hn]
    have hmore : front ++ [e] ≠ front := by simp
    refine ⟨?_, ?_, rfl, rfl⟩
    · intro h
      exact hmore (Except.ok.inj h)
    · intro h
      exact hmore (congrArg Trace.events (Except.ok.inj h))
  · obtain ⟨exc, hexc⟩ := parseEvents_torn hints hcut hwrites hshort hn
    rw [if_neg hn, hexc]
    refine ⟨?_, ?_, exc, rfl, rfl⟩
    · intro h
      cases h
    · intro h
      cases h

-- ================================================================ examples

/-- A decoder that knows the texts of these values. -/
def decodeKnown (known : List Json) (cs : List Char) : Except Exc Json :=
  match known.find? fun a => Json.render a = cs with
  | some a => .ok a
  | none => .error ⟨"JSONDecodeError", "Expecting value"⟩

/-- The texts of dumped events are what `render` writes where they are
printable ASCII. -/
def knowing (known : List Json) : JsonText where
  dumps := Json.render
  loads := decodeKnown known
  int
    | .int n => .ok n
    | .bool b => .ok b.toInt
    | _ => .error (validationError "int")
  decodeError _ := "unexpected end of data"

theorem decodeKnown_render {known : List Json} {a : Json} (h : a ∈ known) :
    decodeKnown known (Json.render a) = .ok a := by
  rw [decodeKnown]
  cases hfind : known.find? fun b => Json.render b = Json.render a with
  | none =>
      have hnone := List.find?_eq_none.mp hfind a h
      exact absurd (decide_eq_true rfl) hnone
  | some b =>
      have hb : Json.render b = Json.render a := by
        simpa using List.find?_some hfind
      rw [Json.render_injective hb]

/-- The text without its braces. -/
def inside (cs : List Char) : List Char := cs.tail.dropLast

/-- A text it knows, on one line, is written and read back. -/
theorem knowing_writes {known : List Json} {a : Json} (h : a ∈ known)
    (hline : '\n' ∉ Json.render a ∧ '\r' ∉ Json.render a)
    (hobject : Json.render a = '{' :: inside (Json.render a) ++ ['}']) :
    (knowing known).Writes a where
  oneLine := hline
  object := ⟨inside (Json.render a), hobject⟩
  inverse := decodeKnown_render h

theorem knowing_noShorter {known : List Json} {a : Json}
    (h : ∀ b ∈ known, Json.render b <+: Json.render a →
      Json.render b = Json.render a) : (knowing known).NoShorter a := by
  intro p hp hne hcut
  refine ⟨⟨"JSONDecodeError", "Expecting value"⟩, ?_⟩
  show decodeKnown known p = _
  rw [decodeKnown]
  cases hfind : known.find? fun b => Json.render b = p with
  | none => rfl
  | some b =>
      have hb : Json.render b = p := by
        simpa using List.find?_some hfind
      subst hb
      exact absurd (h b (List.mem_of_find?_eq_some hfind) hp) hcut

def halfPastTen : Clock :=
  .system (fun _ => "2026-01-15T10:30:00.123Z") (fun n => n * 1000000) 0

def hello : JsonEvent where
  schema := SCHEMA
  taskId := "t-1"
  step := 0
  ts := "2026-01-15T10:30:00.123Z"
  monotonicNs := 1000000
  type := .agentStart
  data := [("prompt", .str "hi\n")]

def goodbye : JsonEvent where
  schema := SCHEMA
  taskId := "t-1"
  step := 1
  ts := "2026-01-15T10:30:00.123Z"
  monotonicNs := 3000000
  type := .agentDone
  data := [("outcome", .str "completed")]

def helloCalls : List (WriterCall (List (String × Json))) := [
  .emit .agentStart hello.data, .setStep 1, .emit .agentDone goodbye.data]

def helloText : JsonText := knowing [hello.dump, goodbye.dump]

theorem helloText_keepsInts : KeepsInts helloText.int := fun _ => rfl

theorem hello_writes : helloText.Writes hello.dump :=
  knowing_writes List.mem_cons_self (by decide +kernel) (by decide +kernel)

theorem goodbye_writes : helloText.Writes goodbye.dump :=
  knowing_writes (List.mem_cons_of_mem _ List.mem_cons_self)
    (by decide +kernel) (by decide +kernel)

theorem hello_noShorter : helloText.NoShorter hello.dump :=
  knowing_noShorter (by decide +kernel)

theorem goodbye_noShorter : helloText.NoShorter goodbye.dump :=
  knowing_noShorter (by decide +kernel)

/-- The writer after these calls. -/
def helloWriter : EventWriter (List (String × Json)) :=
  (WriterCall.performAll helloCalls (.new "t-1" halfPastTen)).2

theorem hello_run : WriterCall.performAll helloCalls (.new "t-1" halfPastTen)
    = (.ok [hello, goodbye], helloWriter) := rfl

/-- A disk with nothing but `/events.jsonl`. -/
def logDisk (bytes : List UInt8) : Disk :=
  .ofTree (Tree.empty.put ["events.jsonl"] (.file bytes) rfl (by decide))

theorem logDisk_file (bytes : List UInt8) :
    (logDisk bytes).tree.node ["events.jsonl"] = some (.file bytes) := rfl

theorem hello_file : helloWriter.file helloText
    = Utf8.encode (eventsText helloText [hello, goodbye]) := by
  have hlines : helloWriter.lines = [hello, goodbye] := rfl
  unfold EventWriter.file
  rw [hlines]

/-- Byte 200 is inside the second line. -/
theorem hello_cut : CutIn helloText [hello, goodbye] [hello] goodbye 200 where
  line := ⟨[], rfl⟩
  start := by decide +kernel
  stop := by decide +kernel

/-- Both events are read back. -/
theorem events_read_back_hello :
    ∃ w, WriterCall.performAll helloCalls (.new "t-1" halfPastTen)
        = (.ok [hello, goodbye], w) ∧
      (readEvents helloText ["events.jsonl"]
        (logDisk (w.file helloText))).1 = .ok [hello, goodbye] := by
  obtain ⟨emitted, w, hrun, -, -, hread⟩ := events_read_back
    helloText_keepsInts "t-1" (show halfPastTen.Lasts
      (WriterCall.asked 0 helloCalls).length from trivial)
  have hemitted : emitted = [hello, goodbye] :=
    (Except.ok.inj (congrArg Prod.fst (hello_run.symm.trans hrun))).symm
  subst hemitted
  refine ⟨w, hrun, hread ?_ _ _ (fun _ => rfl) (logDisk_file _)⟩
  intro e he
  rcases List.mem_pair.mp he with rfl | rfl
  · exact hello_writes
  · exact goodbye_writes

/-- At the cut the trace is not read as the first event alone. -/
theorem torn_trace_hello :
    ∃ w, WriterCall.performAll helloCalls (.new "t-1" halfPastTen)
        = (.ok [hello, goodbye], w) ∧
      (loadTrace helloText ["events.jsonl"]
        (logDisk ((w.file helloText).take 200))).1
          ≠ .ok (Trace.of [hello]) := by
  obtain ⟨emitted, w, hrun, htorn⟩ := torn_trace helloText_keepsInts "t-1"
    (show halfPastTen.Lasts (WriterCall.asked 0 helloCalls).length
      from trivial)
  have hemitted : emitted = [hello, goodbye] :=
    (Except.ok.inj (congrArg Prod.fst (hello_run.symm.trans hrun))).symm
  subst hemitted
  refine ⟨w, hrun, (htorn ?_ _ _ _ hello_cut _ _ (fun _ => rfl)
    (logDisk_file _)).2.1⟩
  intro e he
  rcases List.mem_pair.mp he with rfl | rfl
  · exact ⟨hello_writes, hello_noShorter⟩
  · exact ⟨goodbye_writes, goodbye_noShorter⟩

/-- Cut inside its second line, a file of two events is not read at all. -/
theorem torn_trace_unreadable :
    CutIn helloText [hello, goodbye] [hello] goodbye 200 ∧
      (∃ exc, (readEvents helloText ["events.jsonl"]
        (logDisk ((helloWriter.file helloText).take 200))).1 = .error exc) ∧
      ∃ exc, (loadTrace helloText ["events.jsonl"]
        (logDisk ((helloWriter.file helloText).take 200))).1
          = .error exc := by
  have hwrites : ∀ e ∈ [hello, goodbye], helloText.Writes e.dump := by
    intro e he
    rcases List.mem_pair.mp he with rfl | rfl
    · exact hello_writes
    · exact goodbye_writes
  obtain ⟨exc, hexc⟩ := parseEvents_torn helloText_keepsInts hello_cut hwrites
    goodbye_noShorter (by decide +kernel)
  rw [readEvents_file (fun _ => rfl) (logDisk_file _),
    loadTrace_file (fun _ => rfl) (logDisk_file _), hello_file, hexc]
  exact ⟨hello_cut, ⟨exc, rfl⟩, exc, rfl⟩

end AgentAnvil.Sdk
