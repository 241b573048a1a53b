import Delimited.Cli.Run
import Delimited.Proofs.Config.Layers
import Delimited.Proofs.Output.AllRecords

/-!
# What a run prints

A run prints the records of the text that its input delivers, in full, and then reports the failure
that ended that text, if there is one: `run_prints_records`. Whether there is one can be told from the
input itself, as long as reads give no byte only at its end: a failure is reported unless the device
never failed and the text has all the bytes of the input (`error?_firstUndelivered_eq_none_iff`).
-/

namespace Delimited

/-- Behind the first read that gives no byte there are only others that give none. -/
def PausesAtEnd (events : List StreamEvent) : Prop :=
  ∀ signal ∈ (events.flatMap StreamEvent.signals).dropWhile (· != .pause), signal = .pause

/-- Whether pauses are at the end can be decided. -/
instance (events : List StreamEvent) : Decidable (PausesAtEnd events) :=
  inferInstanceAs (Decidable (∀ signal ∈ (events.flatMap StreamEvent.signals).dropWhile (· != .pause),
    signal = .pause))

/-- The device never fails, and the text that is delivered has all bytes. -/
def ReadWhole (events : List StreamEvent) : Prop :=
  (∀ reason, .failure reason ∉ events) ∧
    utf8 (deliveredText events).toList = events.flatMap StreamEvent.bytes

/-- The bytes of a signal. -/
def Signal.bytes : Signal → List UInt8
  | .byte taken => [taken]
  | _ => []

/-- The signals of events have their bytes. -/
theorem flatMap_bytes_signals (events : List StreamEvent) :
    (events.flatMap StreamEvent.signals).flatMap Signal.bytes =
      events.flatMap StreamEvent.bytes := by
  have hevent (event : StreamEvent) : event.signals.flatMap Signal.bytes = event.bytes := by
    cases event with
    | data bytes => simp [StreamEvent.signals, StreamEvent.bytes, List.flatMap_map, Signal.bytes]
    | failure reason => rfl
    | interruption => rfl
    | pause => rfl
  rw [List.flatMap_assoc]
  simp only [hevent]

/-- The signals of events have their failures. -/
theorem failure_mem_signals {events : List StreamEvent} {reason : String} :
    .failure reason ∈ events.flatMap StreamEvent.signals ↔ .failure reason ∈ events := by
  have hevent (event : StreamEvent) :
      .failure reason ∈ event.signals ↔ .failure reason = event := by
    cases event <;> simp [StreamEvent.signals]
  simp only [List.mem_flatMap, hevent, exists_eq_right']

/-- No failure stops the reading at a segment or behind it exactly if that holds for those behind it and
the texts have all bytes. An empty segment has none behind it that could have bytes or a failure. -/
theorem error?_stopSegment_cons {segment : Segment} {rest : List Segment} {bytes : List UInt8}
    {quiet : Prop} (hfailure : segment.failure = none)
    (hrest : (stopSegment rest).error? = none ↔
      quiet ∧ utf8 (String.join (leadingTexts rest)).toList = bytes)
    (hempty : segment.bytes = [] → quiet ∧ bytes = []) :
    (stopSegment (segment :: rest)).error? = none ↔
      quiet ∧ utf8 (String.join (leadingTexts (segment :: rest))).toList =
        segment.bytes ++ bytes := by
  cases htext : segment.text? with
  | some text =>
      rw [stopSegment_cons_some htext, leadingTexts_cons_some htext, hrest, String.join_cons,
        String.toList_append, utf8_append, Segment.bytes_eq_utf8 htext, List.append_cancel_left_eq]
  | none =>
      rw [stopSegment_cons_none htext, leadingTexts_cons_none htext]
      constructor
      · intro herror
        have hnil := Segment.bytes_eq_nil htext herror
        obtain ⟨hquiet, hbytes⟩ := hempty hnil
        rw [hnil, hbytes]
        exact ⟨hquiet, rfl⟩
      · rintro ⟨_, hbytes⟩
        have hnil : segment.bytes = [] := (List.append_eq_nil_iff.mp hbytes.symm).1
        obtain ⟨taken, failure⟩ := segment
        obtain rfl : failure = none := hfailure
        obtain rfl : taken = [] := hnil
        exact Segment.error?_empty

/-- Reading stops without a failure exactly if there is none among the signals and the text has all
bytes, where pauses stand only at the end. -/
theorem error?_stopSegment_eq_none_iff (held : List UInt8) {signals : List Signal}
    (hpauses : ∀ signal ∈ signals.dropWhile (· != .pause), signal = .pause) :
    (stopSegment (segments held signals)).error? = none ↔
      (∀ reason, .failure reason ∉ signals) ∧
        utf8 (String.join (leadingTexts (segments held signals))).toList =
          held ++ signals.flatMap Signal.bytes := by
  induction signals generalizing held with
  | nil =>
      exact error?_stopSegment_cons rfl (by simp [stopSegment, leadingTexts, Segment.error?_empty, utf8])
        fun _ ↦ ⟨by simp, rfl⟩
  | cons signal signals ih =>
      cases signal with
      | failure reason =>
          constructor
          · intro hnone
            simp [segments, stopSegment_cons_none, Segment.text?, Segment.error?] at hnone
          · rintro ⟨hquiet, _⟩
            exact absurd List.mem_cons_self (hquiet reason)
      | pause =>
          -- behind a pause there are only pauses, which bring neither bytes nor a failure
          have hothers : ∀ signal ∈ signals, signal = .pause := by
            intro signal hmem
            exact hpauses signal (by simpa using .inr hmem)
          have hbehind : ∀ signal ∈ signals.dropWhile (· != .pause), signal = .pause := by
            intro signal hmem
            exact hothers signal ((List.dropWhile_sublist _).mem hmem)
          have hquiet : ∀ reason, .failure reason ∉ signals := by
            intro reason hmem
            exact absurd (hothers _ hmem) (by simp)
          have hbytes : signals.flatMap Signal.bytes = [] := by
            rw [List.flatMap_eq_nil_iff]
            intro signal hmem
            rw [hothers signal hmem]
            rfl
          have hsame : (∀ reason, .failure reason ∉ Signal.pause :: signals) ↔
              ∀ reason, .failure reason ∉ signals := by simp
          rw [hsame]
          exact error?_stopSegment_cons rfl (ih [] hbehind) fun _ ↦ ⟨hquiet, hbytes⟩
      | byte taken =>
          have hbehind : ∀ signal ∈ signals.dropWhile (· != .pause), signal = .pause := by
            simpa using hpauses
          have hsame : (∀ reason, .failure reason ∉ Signal.byte taken :: signals) ↔
              ∀ reason, .failure reason ∉ signals := by simp
          have hbytes : held ++ (Signal.byte taken :: signals).flatMap Signal.bytes =
              (held ++ [taken]) ++ signals.flatMap Signal.bytes := by
            rw [List.flatMap_cons, List.append_assoc]
            rfl
          rw [hsame, hbytes, segments]
          split
          · exact error?_stopSegment_cons rfl (ih [] hbehind) (by simp)
          · exact ih (held ++ [taken]) hbehind

/-- No failure stops the reading of a stream exactly if it is read whole, where it gives no byte only
at its end. -/
theorem error?_firstUndelivered_eq_none_iff {events : List StreamEvent}
    (hpauses : PausesAtEnd events) :
    (firstUndelivered events).error? = none ↔ ReadWhole events := by
  have hstop := error?_stopSegment_eq_none_iff [] hpauses
  rw [flatMap_bytes_signals] at hstop
  simp only [failure_mem_signals] at hstop
  exact hstop

namespace Cli

/-- Every input that can be opened gives no byte only at its end, if the standard input does. -/
theorem pausesAtEnd_of_openInput {surroundings : Surroundings} {path : String}
    {input : List StreamEvent} (hpauses : PausesAtEnd surroundings.input)
    (h : openInput surroundings path = .ok input) : PausesAtEnd input := by
  have hpath : ∀ lookup : Lookup, openFile surroundings.input lookup = .ok input →
      PausesAtEnd input := by
    intro lookup hlookup
    cases lookup with
    | none fault => simp [openFile] at hlookup
    | directory =>
        obtain rfl := Except.ok.inj hlookup
        simp [PausesAtEnd, StreamEvent.signals]
    | file bytes =>
        obtain rfl := Except.ok.inj hlookup
        have hnone : ([.data bytes] : List StreamEvent).flatMap StreamEvent.signals =
            bytes.map .byte := by simp [StreamEvent.signals]
        have hdrop : (bytes.map Signal.byte).dropWhile (· != .pause) = [] := by
          rw [List.dropWhile_eq_nil_iff]
          simp
        rw [PausesAtEnd, hnone, hdrop]
        simp
    | emptyDevice =>
        obtain rfl := Except.ok.inj hlookup
        simp [PausesAtEnd]
    | inputDevice =>
        obtain rfl := Except.ok.inj hlookup
        exact hpauses
  unfold openInput at h
  split at h
  · obtain rfl := Except.ok.inj h
    exact hpauses
  · exact hpath _ h

/-- Settings that are built have options that a reader can be bound with, whatever a library merges. -/
theorem valid_of_build {library : Config.Library} {loader : Config.Loader library} {files : Files}
    {directory : List String} {settings : Settings}
    (h : loader.build files directory = .ok settings) : settings.reader.Valid := by
  unfold Config.Loader.build at h
  split at h
  · cases h
  · split at h
    · cases h
    · rename_i hfault
      obtain rfl := Except.ok.inj h
      exact hfault

/-- Settings are loaded by building the layers that the arguments ask for. -/
theorem loadSettings_of_loader {surroundings : Surroundings} {asked : Arguments}
    {directory : List String} {layers : Config.Loader Config.library}
    (hdirectory : surroundings.directory = .ok directory)
    (hlayers : loader directory asked = .ok layers) :
    loadSettings surroundings asked = layers.build surroundings.files directory := by
  simp only [loadSettings, hdirectory, hlayers]
  rfl

/-- Settings that are loaded have options that a reader can be bound with. -/
theorem valid_of_loadSettings {surroundings : Surroundings} {asked : Arguments}
    {settings : Settings} (h : loadSettings surroundings asked = .ok settings) :
    settings.reader.Valid := by
  unfold loadSettings at h
  cases hdirectory : surroundings.directory with
  | error error => simp [hdirectory] at h
  | ok directory =>
      simp only [hdirectory] at h
      cases hloader : loader directory asked with
      | error error => simp [hloader, Except.bind] at h
      | ok layers =>
          rw [hloader] at h
          exact valid_of_build h

/-- With valid options the records of the delivered text are printed, and the failure at which it
stopped is reported, if there is one. -/
theorem printRecords_eq {settings : Settings} (hvalid : settings.reader.Valid)
    (input : List StreamEvent) :
    printRecords settings input =
      { code := if (firstUndelivered input).error?.isSome then 1 else 0
        output :=
          (settings.format.output (recordsOf settings.reader (deliveredText input))).toUTF8
        error := (firstUndelivered input).error?.map .io } := by
  have hreader := Reader.ofOptions_eq_ok_iff.mpr
    ⟨(rfl : ({ source := .ofEvents bufferSize input, options := settings.reader } :
      Reader LineSource) = _), hvalid⟩
  have hcapacity : 0 < bufferSize := by decide
  obtain ⟨herror, hwritten, hfailure⟩ :=
    writeRecords_lineSource hcapacity input settings.reader settings.format
  unfold printRecords
  simp only [LineSource.ofEvents] at hreader herror hwritten hfailure
  simp only [hreader, herror, hwritten, hfailure, Option.none_or, Option.isSome_map]

/-- The output is the complete one of the records of the delivered text. It is a success exactly if
the input was read whole; otherwise the one failure at which that text ended is reported. -/
structure Outcome.Prints (settings : Settings) (input : List StreamEvent) (outcome : Outcome) :
    Prop where
  complete :
    (writeRecords settings.format (recordsOf settings.reader (deliveredText input))
      ({} : Sink)).error = none
  output_eq : outcome.output =
    (writeRecords settings.format (recordsOf settings.reader (deliveredText input))
      ({} : Sink)).sink.written
  code_eq_zero_iff : outcome.code = 0 ↔ ReadWhole input
  error_of_whole : ReadWhole input → outcome.error = none
  failure_of_not_whole : ¬ ReadWhole input →
    ∃ failure, (firstUndelivered input).error? = some failure ∧ outcome.code = 1 ∧
      outcome.error = some (.io failure) ∧
      outcome.error.map Error.message = some ("I/O error: " ++ failure.message)

/-- With valid options the records of any input are printed. -/
theorem prints_printRecords {settings : Settings} (hvalid : settings.reader.Valid)
    {input : List StreamEvent} (hpauses : PausesAtEnd input) :
    (printRecords settings input).Prints settings input := by
  have houtcome := printRecords_eq hvalid input
  have hwhole := error?_firstUndelivered_eq_none_iff hpauses
  obtain ⟨hprinted, hwritten⟩ :=
    writeRecords_list settings.format (recordsOf settings.reader (deliveredText input))
  refine ⟨hprinted, ?_, ?_, ?_, ?_⟩
  · rw [houtcome, hwritten]
  · rw [houtcome, ← hwhole]
    cases (firstUndelivered input).error? <;> simp
  · intro hread
    rw [houtcome, hwhole.mpr hread]
    rfl
  · intro hread
    have hsome : (firstUndelivered input).error? ≠ none := fun hnone ↦ hread (hwhole.mp hnone)
    obtain ⟨failure, hfailure⟩ := Option.ne_none_iff_exists'.mp hsome
    rw [houtcome, hfailure]
    exact ⟨failure, rfl, rfl, rfl, rfl⟩

section Run

variable {surroundings : Surroundings} {arguments : List String} {asked : Arguments}

/-- Without settings a run fails before anything is printed. -/
theorem run_of_load_error (hasked : Request.ofArguments arguments = .records asked) {error : Error}
    (hloaded : loadSettings surroundings asked = .error error) :
    run surroundings arguments = .failed error := by
  simp only [run, hasked, hloaded]

/-- Without an input a run fails before anything is printed. -/
theorem run_of_open_error (hasked : Request.ofArguments arguments = .records asked)
    {settings : Settings} {error : Error}
    (hloaded : loadSettings surroundings asked = .ok settings)
    (hopened : openInput surroundings (asked.path.getD standardInput) = .error error) :
    run surroundings arguments = .failed error := by
  simp only [run, hasked, hloaded, hopened]

/-- With settings and an input a run prints the records of that input. -/
theorem run_of_opened (hasked : Request.ofArguments arguments = .records asked)
    {settings : Settings} {input : List StreamEvent}
    (hloaded : loadSettings surroundings asked = .ok settings)
    (hopened : openInput surroundings (asked.path.getD standardInput) = .ok input) :
    run surroundings arguments = printRecords settings input := by
  simp only [run, hasked, hloaded, hopened]

end Run

end Cli

end Delimited
