import Delimited.Proofs.Agreement
import Delimited.Proofs.LineCounter

/-!
# Cutting a text between records

The scanner looks one character ahead: behind a quote, behind a carriage return, and behind a
newline between quotes. None of these looks goes past the end of a line that something follows, so a
read that finds a line and leaves something unread is settled by what it takes: `readText_settles`.
The same holds of every step of a session, and of the session: `Reader.settlesStep_replies`.

Read `answers_cut_at_record` first: the part of a text that a session has taken can be put in front
of any other text, and behind it reading goes on as it does in that text alone.
-/

namespace Delimited

/-- A read of `text` that leaves `rest` is settled: what it takes ends in a newline and decides the
read alone, so that in front of any other text the same is taken. -/
def Settles {α : Type} (read : List Char → α) (text rest : List Char)
    (result : List Char → α) : Prop :=
  ∃ taken : List Char, text = taken ++ rest ∧ taken.getLast? = some '\n' ∧
    ∀ behind : List Char, read (taken ++ behind) = result behind

/-- What ends in a newline has a first character. -/
theorem head?_append_of_getLast? {taken : List Char} (hlast : taken.getLast? = some '\n')
    (rest behind : List Char) : (taken ++ behind).head? = (taken ++ rest).head? := by
  cases taken with
  | nil => simp at hlast
  | cons first others => rfl

/-- Whether a text starts with an empty line does not depend on what stands behind a newline. -/
theorem afterEmptyLine?_append_eq_none {taken rest : List Char}
    (hlast : taken.getLast? = some '\n') (h : afterEmptyLine? (taken ++ rest) = none)
    (behind : List Char) : afterEmptyLine? (taken ++ behind) = none := by
  match taken with
  | [] => simp at hlast
  | [first] =>
      obtain rfl : first = '\n' := by simpa using hlast
      exact absurd h (by simp [afterEmptyLine?])
  | first :: second :: others =>
      unfold afterEmptyLine? at h ⊢
      split at h <;> simp_all

namespace Settles

variable {α : Type} {read next : List Char → α} {text rest : List Char} {result : List Char → α}

/-- Something is taken. -/
theorem ne_nil (h : Settles read text rest result) : text ≠ [] := by
  obtain ⟨taken, rfl, hlast, _⟩ := h
  intro hnil
  rw [(List.append_eq_nil_iff.mp hnil).1] at hlast
  simp at hlast

/-- A read that takes a piece of text, with a look at no more than one character behind it, and then
goes on as a settled read is settled. -/
theorem prepend (h : Settles next text rest result) (front : List Char)
    (hread : ∀ other : List Char, other ≠ [] → other.head? = text.head? →
      read (front ++ other) = next other) :
    Settles read (front ++ text) rest result := by
  obtain ⟨taken, rfl, hlast, hnext⟩ := h
  have hne : taken ≠ [] := by
    rintro rfl
    simp at hlast
  refine ⟨front ++ taken, by simp, ?_, fun behind ↦ ?_⟩
  · rw [List.getLast?_append, hlast, Option.some_or]
  · have hsame := head?_append_of_getLast? hlast rest behind
    rw [List.append_assoc, hread _ (by simp [hne]) hsame, hnext]

/-- A read that drops a piece of text, which is settled, and then goes on as a settled read is
settled. -/
theorem trans {β : Type} {drop wrap : List Char → β} {front behind : List Char}
    (hdrop : Settles drop front behind wrap) (h : Settles next behind rest result)
    (hread : ∀ other left : List Char, other.head? = front.head? → drop other = wrap left →
      read other = next left) :
    Settles read front rest result := by
  obtain ⟨dropped, rfl, hdropped, hwrap⟩ := hdrop
  obtain ⟨taken, rfl, hlast, hnext⟩ := h
  refine ⟨dropped ++ taken, by simp, ?_, fun behind ↦ ?_⟩
  · rw [List.getLast?_append, hlast, Option.some_or]
  · have hsame := head?_append_of_getLast? hdropped (taken ++ rest) (taken ++ behind)
    rw [List.append_assoc, hread _ _ hsame (hwrap _), hnext]

/-- What is made of a settled read is settled. -/
theorem map {β : Type} (h : Settles next text rest result) (make : α → β) :
    Settles (fun other ↦ make (next other)) text rest fun behind ↦ make (result behind) := by
  obtain ⟨taken, htext, hlast, hnext⟩ := h
  exact ⟨taken, htext, hlast, fun behind ↦ congrArg make (hnext behind)⟩

end Settles

/-- Dropping a line is settled if something is left behind it. -/
theorem afterLine_settles {text : List Char} (h : afterLine text ≠ []) :
    Settles afterLine text (afterLine text) id := by
  induction text with
  | nil => exact absurd rfl h
  | cons char rest ih =>
      rw [afterLine] at h ⊢
      by_cases hnewline : char = '\n'
      · rw [if_pos hnewline]
        exact ⟨[char], rfl, by simp [hnewline], fun behind ↦ by simp [afterLine, hnewline]⟩
      · rw [if_neg hnewline] at h ⊢
        refine (ih h).prepend [char] ?_
        intro other _ _
        rw [List.singleton_append, afterLine, if_neg hnewline]

/-- Dropping an empty line is settled. -/
theorem afterEmptyLine?_settles {text behind : List Char}
    (h : afterEmptyLine? text = some behind) : Settles afterEmptyLine? text behind some := by
  unfold afterEmptyLine? at h
  split at h
  · obtain rfl := Option.some.inj h
    exact ⟨['\n'], rfl, rfl, fun _ ↦ rfl⟩
  · obtain rfl := Option.some.inj h
    exact ⟨['\r', '\n'], rfl, rfl, fun _ ↦ rfl⟩
  · exact absurd h (by simp)

/-- A scan that leaves something unread is settled: each character that it looks ahead at belongs to
the line, since the line goes on. -/
theorem scanText_settles {dialect : Dialect} {scan : LineScan} {text : List Char}
    (h : (scanText dialect scan text).rest ≠ []) :
    Settles (scanText dialect scan) text (scanText dialect scan text).rest
      fun behind ↦ { scanText dialect scan text with rest := behind } := by
  fun_induction scanText dialect scan text with
  | case1 scan => exact absurd rfl h
  | case2 scan hplace rest ih =>
      refine (ih h).prepend [quote, quote] ?_
      intro other _ _
      exact scanText_pair dialect hplace other
  | case3 scan hplace rest hrest ih =>
      refine (ih h).prepend [quote] ?_
      intro other _ hhead
      have hclose : other.head? ≠ some quote := by
        rw [hhead]
        intro hquote
        obtain ⟨others, hothers⟩ := List.head?_eq_some_iff.mp hquote
        exact hrest others hothers
      exact scanText_close dialect hplace hclose
  | case4 scan rest hplace opened hquote ih =>
      have hrest := (ih h).ne_nil
      refine (ih h).prepend ['\n'] ?_
      intro other hother _
      rw [List.singleton_append, scanText_quoted dialect hplace hquote, if_pos rfl]
      simp [opened, hrest, hother]
  | case5 scan char rest hplace hquote hnewline ih =>
      refine (ih h).prepend [char] ?_
      intro other _ _
      rw [List.singleton_append, scanText_quoted dialect hplace hquote, if_neg hnewline]
  | case6 scan rest hplace ih =>
      refine (ih h).prepend [dialect.delimiter] ?_
      intro other _ _
      rw [List.singleton_append, scanText_plain dialect hplace, if_pos rfl]
  | case7 scan rest hplace hdelimiter =>
      refine ⟨['\n'], rfl, rfl, ?_⟩
      intro behind
      rw [List.singleton_append, scanText_plain dialect hplace, if_neg hdelimiter, if_pos rfl]
      rfl
  | case8 scan char rest hplace hdelimiter hnewline hreturn =>
      obtain ⟨rfl, hhead⟩ := hreturn
      obtain ⟨left, rfl⟩ := List.head?_eq_some_iff.mp hhead
      refine ⟨['\r', '\n'], rfl, rfl, ?_⟩
      intro behind
      rw [List.cons_append, scanText_plain dialect hplace, if_neg hdelimiter, if_neg hnewline,
        if_pos ⟨rfl, rfl⟩]
      rfl
  | case9 scan rest hplace hdelimiter hnewline hreturn =>
      have hcomment := (afterLine_settles h).map scan.stop
      refine hcomment.prepend [dialect.comment] ?_
      intro other _ hhead
      rw [List.singleton_append, scanText_plain dialect hplace, if_neg hdelimiter,
        if_neg hnewline, hhead, if_neg hreturn, if_pos rfl]
  | case10 scan char rest hplace hdelimiter hnewline hreturn hcomment hquote ih =>
      refine (ih h).prepend [char] ?_
      intro other _ hhead
      rw [List.singleton_append, scanText_plain dialect hplace, if_neg hdelimiter,
        if_neg hnewline, hhead, if_neg hreturn, if_neg hcomment, if_pos hquote]
  | case11 scan char rest hplace hdelimiter hnewline hreturn hcomment hquote ih =>
      refine (ih h).prepend [char] ?_
      intro other _ hhead
      rw [List.singleton_append, scanText_plain dialect hplace, if_neg hdelimiter,
        if_neg hnewline, hhead, if_neg hreturn, if_neg hcomment, if_neg hquote]

/-- A read that finds a line and leaves something unread is settled. -/
theorem readText_settles {dialect : Dialect} {skipEmpty : Bool} {line : Nat} {text : List Char}
    (hline : (readText dialect skipEmpty line text).fields?.isSome)
    (hrest : (readText dialect skipEmpty line text).rest ≠ []) :
    Settles (readText dialect skipEmpty line) text (readText dialect skipEmpty line text).rest
      fun behind ↦ { readText dialect skipEmpty line text with rest := behind } := by
  fun_induction readText dialect skipEmpty line text with
  | case1 line => simp at hline
  | case2 line rest ih =>
      have hnext := ih hline hrest
      refine (afterLine_settles hnext.ne_nil).trans hnext ?_
      intro other left hhead hdrop
      obtain ⟨others, rfl⟩ := List.head?_eq_some_iff.mp hhead
      rw [readText_comment, hdrop, id]
  | case3 line first rest hcomment behind hempty hskip ih =>
      refine (afterEmptyLine?_settles hempty).trans (ih hline hrest) ?_
      intro other left hhead hdrop
      rw [readText_empty skipEmpty line (by simpa [hhead] using hcomment) hdrop, if_pos hskip]
  | case4 line first rest hcomment behind hempty hkeep =>
      obtain ⟨taken, htext, hlast, hdrop⟩ := afterEmptyLine?_settles hempty
      refine ⟨taken, htext, hlast, fun other ↦ ?_⟩
      have hhead := head?_append_of_getLast? hlast behind other
      rw [← htext] at hhead
      rw [readText_empty skipEmpty line (by simpa [hhead] using hcomment) (hdrop other),
        if_neg hkeep]
  | case5 line first rest hcomment hempty scanned =>
      obtain ⟨taken, htext, hlast, hscan⟩ := scanText_settles hrest
      refine ⟨taken, htext, hlast, fun other ↦ ?_⟩
      have hhead := head?_append_of_getLast? hlast scanned.rest other
      rw [← htext] at hhead
      rw [htext] at hempty
      have hnone := afterEmptyLine?_append_eq_none hlast hempty other
      rw [readText_logical skipEmpty line (by simpa [hhead] using hcomment) hnone, hscan]
      rintro hnil
      simp [hnil] at hhead

/-- The other reader has the options and the counter of the first one, and stands in front of this
text. -/
structure Reader.MovedTo {σ : Type} [CharSource σ] (text : List Char) (reader other : Reader σ) :
    Prop where
  options : other.options = reader.options
  line : other.line = reader.line
  unread : CharSource.unread other.source = text

/-- A step of a reader is settled: what it takes of the unread text decides its value, so that a
reader in front of another text that starts with this part gives the same value and is left in front
of what stands behind the part there. -/
def Reader.SettlesStep {σ α : Type} [CharSource σ] (reader : Reader σ)
    (step : Reader σ → α × Reader σ) : Prop :=
  ∃ taken : List Char,
    CharSource.unread reader.source = taken ++ CharSource.unread (step reader).2.source ∧
    ∀ (other : Reader σ) (behind : List Char), reader.MovedTo (taken ++ behind) other →
      (step other).1 = (step reader).1 ∧ (step reader).2.MovedTo behind (step other).2

variable {σ : Type} [CharSource σ]

open CharSource (unread)

namespace Reader

/-- A step that leaves the source alone is settled. -/
theorem SettlesStep.of_source {α : Type} {reader : Reader σ} {step : Reader σ → α × Reader σ}
    (hsource : ∀ other, (step other).2.source = other.source)
    (hstep : ∀ other, other.options = reader.options → other.line = reader.line →
      (step other).1 = (step reader).1 ∧ (step other).2.options = (step reader).2.options ∧
        (step other).2.line = (step reader).2.line) :
    reader.SettlesStep step := by
  refine ⟨[], by rw [hsource, List.nil_append], ?_⟩
  intro other behind hmoved
  obtain ⟨hvalue, hoptions, hline⟩ := hstep other hmoved.options hmoved.line
  refine ⟨hvalue, hoptions, hline, ?_⟩
  rw [hsource, hmoved.unread, List.nil_append]

/-- A settled step after a settled step makes a settled step. -/
theorem SettlesStep.bind {α β : Type} {reader : Reader σ} {first : Reader σ → α × Reader σ}
    (hfirst : reader.SettlesStep first) (second : α → Reader σ → β × Reader σ)
    (hsecond : (first reader).2.SettlesStep (second (first reader).1)) :
    reader.SettlesStep fun other ↦ second (first other).1 (first other).2 := by
  obtain ⟨taken, htaken, hsame⟩ := hfirst
  obtain ⟨more, hmore, hgoes⟩ := hsecond
  refine ⟨taken ++ more, by rw [htaken, hmore, List.append_assoc], ?_⟩
  intro other behind hmoved
  rw [List.append_assoc] at hmoved
  obtain ⟨hvalue, hbetween⟩ := hsame other (more ++ behind) hmoved
  dsimp only
  rw [hvalue]
  exact hgoes (first other).2 behind hbetween

/-- What is made of the value of a settled step is settled. -/
theorem SettlesStep.map {α β : Type} {reader : Reader σ} {step : Reader σ → α × Reader σ}
    (h : reader.SettlesStep step) (make : α → β) :
    reader.SettlesStep fun other ↦ (make (step other).1, (step other).2) := by
  obtain ⟨taken, htaken, hsame⟩ := h
  refine ⟨taken, htaken, fun other behind hmoved ↦ ?_⟩
  obtain ⟨hvalue, hafter⟩ := hsame other behind hmoved
  exact ⟨congrArg make hvalue, hafter⟩

/-- A step that does the same with the same options is settled as well. -/
theorem SettlesStep.congr {α : Type} {reader : Reader σ} {step same : Reader σ → α × Reader σ}
    (h : reader.SettlesStep step)
    (hsame : ∀ other, other.options = reader.options → same other = step other) :
    reader.SettlesStep same := by
  obtain ⟨taken, htaken, hstep⟩ := h
  refine ⟨taken, by rw [hsame reader rfl]; exact htaken, fun other behind hmoved ↦ ?_⟩
  rw [hsame other hmoved.options, hsame reader rfl]
  exact hstep other behind hmoved

/-- A settled step that leaves something unread starts with something unread. -/
theorem SettlesStep.unread_ne_nil {α : Type} {reader : Reader σ}
    {step : Reader σ → α × Reader σ} (h : reader.SettlesStep step)
    (hrest : unread (step reader).2.source ≠ []) : unread reader.source ≠ [] := by
  obtain ⟨taken, htaken, _⟩ := h
  rw [htaken]
  exact List.append_ne_nil_of_right_ne_nil taken hrest

/-- A read that finds a line and leaves something unread is settled. -/
theorem settlesStep_readFields {reader : Reader σ} {skipEmpty : Bool}
    (hline : (reader.readFields skipEmpty).fields?.isSome)
    (hrest : unread (reader.readFields skipEmpty).reader.source ≠ []) :
    reader.SettlesStep fun other ↦
      ((other.readFields skipEmpty).fields?, (other.readFields skipEmpty).reader) := by
  rw [fields?_readFields] at hline
  rw [unread_readFields] at hrest
  obtain ⟨taken, htaken, _, hread⟩ := readText_settles hline hrest
  refine ⟨taken, by rw [unread_readFields]; exact htaken, ?_⟩
  intro other behind hmoved
  have hother := hread behind
  rw [← hmoved.unread, ← hmoved.options, ← hmoved.line] at hother
  refine ⟨?_, ?_, ?_, ?_⟩
  · show (other.readFields skipEmpty).fields? = (reader.readFields skipEmpty).fields?
    rw [fields?_readFields, fields?_readFields, hother, hmoved.options, hmoved.line]
  · show (other.readFields skipEmpty).reader.options = (reader.readFields skipEmpty).reader.options
    rw [options_readFields, options_readFields, hmoved.options]
  · show (other.readFields skipEmpty).reader.line = (reader.readFields skipEmpty).reader.line
    rw [line_readFields, line_readFields, hother, hmoved.options, hmoved.line]
  · show unread (other.readFields skipEmpty).reader.source = behind
    rw [unread_readFields, hother]

/-- Handing out a record is settled if there is one and something is left unread behind it. -/
theorem settlesStep_nextRecord {reader : Reader σ} (hrecord : reader.nextRecord.1.isSome)
    (hrest : unread reader.nextRecord.2.reader.source ≠ []) :
    reader.SettlesStep fun other ↦ (other.nextRecord.1, other.nextRecord.2.reader) := by
  have hline : (reader.readFields reader.options.skipEmpty).fields?.isSome := by
    simpa [nextRecord] using hrecord
  have hread := (settlesStep_readFields hline hrest).bind
    (fun fields? other ↦
      (fields?.map fun fields ↦
        ({ line := other.line
           fields := fields.map (Field.token · reader.options.trim) } : Record), other))
    (.of_source (fun _ ↦ rfl) (fun _ hoptions hline ↦ ⟨by rw [hline], hoptions, hline⟩))
  refine hread.congr fun other hoptions ↦ ?_
  rw [nextRecord, hoptions]
  cases hfields : (other.readFields reader.options.skipEmpty).fields? <;>
    simp [Reading.tokens, hfields]

/-- Taking records is settled if there are as many as were asked for and something is left unread
behind them. -/
theorem settlesStep_takeRecords {reader : Reader σ} {count : Nat}
    (hall : ¬ (reader.takeRecords count).1.length < count)
    (hrest : unread (reader.takeRecords count).2.source ≠ []) :
    reader.SettlesStep (·.takeRecords count) := by
  induction count generalizing reader with
  | zero => exact .of_source (fun _ ↦ rfl) (fun _ hoptions hline ↦ ⟨rfl, hoptions, hline⟩)
  | succ count ih =>
      cases hrecord : reader.nextRecord.1 with
      | none => simp [takeRecords_of_none hrecord] at hall
      | some record =>
          rw [takeRecords_of_some hrecord] at hall hrest
          have hothers := ih (by simpa using hall) hrest
          have hfirst := settlesStep_nextRecord (by simp [hrecord]) (hothers.unread_ne_nil hrest)
          have hboth := hfirst.bind (fun record? other ↦ record?.elim ([], other) fun record ↦
            (record :: (other.takeRecords count).1, (other.takeRecords count).2)) (by
              rw [hrecord]
              exact hothers.map (record :: ·))
          refine hboth.congr fun other _ ↦ ?_
          cases hother : other.nextRecord.1 with
          | none => rw [takeRecords_of_none hother, Option.elim_none]
          | some first => rw [takeRecords_of_some hother, Option.elim_some]

/-- Answering a request is settled if the answer does not show the end of the text and something is
left unread. -/
theorem settlesStep_serve {reader : Reader σ} {request : ReaderRequest}
    (hline : ¬ request.MetEnd (reader.serve request).answer)
    (hrest : unread (reader.serve request).reader.source ≠ []) :
    reader.SettlesStep fun other ↦ ((other.serve request).answer, (other.serve request).reader) := by
  cases request with
  | line skipEmpty trim =>
      have hsome : (reader.readFields skipEmpty).fields?.isSome := by
        simpa [ReaderRequest.MetEnd, serve, Reading.status, Option.isSome_iff_ne_none] using hline
      have hread := settlesStep_readFields hsome hrest
      refine hread.bind (fun fields? other ↦
        (Answer.line (if fields?.isSome then .line else .endOfStream)
          ((fields?.getD []).map (Field.token · trim)) other.line, other)) ?_
      exact .of_source (fun _ ↦ rfl) (fun _ hoptions hline ↦ ⟨by rw [hline], hoptions, hline⟩)
  | records count =>
      have hsame : (fun other : Reader σ ↦
          ((other.serve (.records count)).answer, (other.serve (.records count)).reader)) =
          fun other ↦ (.records (other.takeRecords count).1 (other.takeRecords count).2.line,
            (other.takeRecords count).2) := by
        funext other
        rw [(other.serve_records count).1, (other.serve_records count).2]
      obtain ⟨hanswer, hreader⟩ := reader.serve_records count
      rw [hanswer] at hline
      rw [hreader] at hrest
      rw [hsame]
      refine (settlesStep_takeRecords hline hrest).bind (fun records other ↦
        (Answer.records records other.line, other)) ?_
      exact .of_source (fun _ ↦ rfl) (fun _ hoptions hline ↦ ⟨by rw [hline], hoptions, hline⟩)
  | setComment comment =>
      refine .of_source (fun _ ↦ rfl) (fun other hoptions hline ↦ ?_)
      simp [serve, setComment, hoptions, hline]

/-- A session is settled if no answer shows the end of the text and something is left unread. -/
theorem settlesStep_replies {reader : Reader σ} {requests : List ReaderRequest}
    (hlines : ∀ pair ∈ requests.zip ((replies serve reader requests).map Reply.answer),
      ¬ pair.1.MetEnd pair.2)
    (hrest : unread (reader.after requests).source ≠ []) :
    reader.SettlesStep fun other ↦
      ((replies serve other requests).map Reply.answer, other.after requests) := by
  induction requests generalizing reader with
  | nil => exact .of_source (fun _ ↦ rfl) (fun _ hoptions hline ↦ ⟨rfl, hoptions, hline⟩)
  | cons request requests ih =>
      have hothers := ih (fun pair hpair ↦ hlines pair (List.mem_cons_of_mem _ hpair)) hrest
      have hfirst := settlesStep_serve (hlines _ List.mem_cons_self)
        (hothers.unread_ne_nil hrest)
      exact hfirst.bind (fun answer other ↦
        (answer :: (replies serve other requests).map Reply.answer, other.after requests))
        (hothers.map ((reader.serve request).answer :: ·))

end Reader

/-- Let a session with a reader over a text give nothing but lines and leave something unread. In
front of any other text, what it has consumed gives the same answers, leaves the reader at the same
line and exactly that other text unread; and whatever is asked of the reader from then on, it
answers as a reader does that is bound to the other text alone and has the comment character changed
likewise, with the lines further on by those consumed. -/
theorem answers_cut_at_record {text : String} {options : Options} {reader : Reader TextSource}
    (hbind : Reader.ofOptions (TextSource.ofText text) options = .ok reader)
    {requests : List ReaderRequest}
    (hlines : ∀ pair ∈ requests.zip ((replies Reader.serve reader requests).map Reply.answer),
      ¬ pair.1.MetEnd pair.2)
    (hrest : (reader.after requests).source.remaining ≠ "") :
    ∃ consumed : String, consumed ++ (reader.after requests).source.remaining = text ∧
      ∀ behind : String,
        let last := reader.after requests
        let spliced : Reader TextSource := { source := .ofText (consumed ++ behind), options }
        let fresh : Reader TextSource := { source := .ofText behind, options }
        (replies Reader.serve spliced requests).map Reply.answer =
            (replies Reader.serve reader requests).map Reply.answer ∧
          (spliced.after requests).line = last.line ∧
          (spliced.after requests).source.remaining = behind ∧
          ∀ more : List ReaderRequest,
            (replies Reader.serve (spliced.after requests) more).map Reply.answer =
              (replies Reader.serve (fresh.setComment last.options.comment).1 more).map
                fun reply ↦ reply.answer.behind last.line := by
  obtain ⟨hreader, -⟩ := Reader.ofOptions_eq_ok_iff.mp hbind
  have hunread : unread (reader.after requests).source ≠ [] := by
    intro hnil
    exact hrest (congrArg String.ofList hnil)
  obtain ⟨taken, htaken, hsame⟩ := Reader.settlesStep_replies hlines hunread
  refine ⟨String.ofList taken, ?_, fun behind ↦ ?_⟩
  · have htext : unread reader.source = text.toList := by rw [hreader]; rfl
    rw [← String.toList_inj, String.toList_append, String.toList_ofList, TextSource.remaining,
      String.toList_ofList, ← htext]
    exact htaken.symm
  · intro last spliced fresh
    have hmoved : reader.MovedTo (taken ++ behind.toList) spliced := by
      rw [hreader]
      exact ⟨rfl, rfl, by simp [spliced, TextSource.ofText, unread]⟩
    obtain ⟨hanswers, hafter⟩ := hsame spliced behind.toList hmoved
    have hoptions : last.options = { options with comment := last.options.comment } :=
      (Reader.optionsBut_invariant options).after (by rw [hreader]) requests
    have hahead : (spliced.after requests).Ahead last.line
        (fresh.setComment last.options.comment).1 :=
      ⟨hafter.options.trans hoptions, hafter.line.trans (Nat.zero_add _).symm, hafter.unread⟩
    refine ⟨hanswers, hafter.line, ?_, hahead.answers⟩
    rw [← String.toList_inj, TextSource.remaining, String.toList_ofList]
    exact hafter.unread

/-- A cut behind a record over two physical lines, a change of the comment character and a comment
line; an open quote is put behind it. -/
theorem answers_cut_at_record_behind_quoted_newline :
    let source := TextSource.ofText "\"a\nb\",c\r\n;x\nd,e\nf\n"
    let requests := [.line true false, .setComment ';', .records 1]
    Reader.ofOptions source {} = .ok { source } ∧
      (∀ pair ∈ requests.zip
        ((replies Reader.serve ({ source } : Reader TextSource) requests).map Reply.answer),
          ¬ pair.1.MetEnd pair.2) ∧
      (({ source } : Reader TextSource).after requests).source.remaining ≠ "" ∧
      ∃ consumed : String, consumed ++ "f\n" = "\"a\nb\",c\r\n;x\nd,e\nf\n" ∧
        let spliced : Reader TextSource := { source := .ofText (consumed ++ "\"u;\n") }
        (replies Reader.serve (spliced.after requests) [.line false false]).map Reply.answer =
          [.line .line ["u;\n"] 5] := by
  intro source requests
  have hbind : Reader.ofOptions source {} = .ok { source } := rfl
  have hanswers : (replies Reader.serve ({ source } : Reader TextSource) requests).map
      Reply.answer = [.line .line ["a\nb", "c"] 2, .comment ';',
        .records [{ line := 4, fields := ["d", "e"] }] 4] := by decide +kernel
  have hlines : ∀ pair ∈ requests.zip
      ((replies Reader.serve ({ source } : Reader TextSource) requests).map Reply.answer),
      ¬ pair.1.MetEnd pair.2 := by
    rw [hanswers]
    simp [requests, ReaderRequest.MetEnd]
  have hremaining : (({ source } : Reader TextSource).after requests).source.remaining = "f\n" := by
    decide +kernel
  have hrest : (({ source } : Reader TextSource).after requests).source.remaining ≠ "" := by
    rw [hremaining]
    decide
  obtain ⟨consumed, hconsumed, hcut⟩ := answers_cut_at_record hbind hlines hrest
  rw [hremaining] at hconsumed
  obtain ⟨_, _, _, hmore⟩ := hcut "\"u;\n"
  refine ⟨hbind, hlines, hrest, consumed, hconsumed, ?_⟩
  exact (hmore [.line false false]).trans (by decide +kernel)

end Delimited
