/-
What is written to the log.

Each call reports the events on the way to its answer.  Until a logger is installed nothing is
written; from then on there is a line for each event that the filter of the logger shows, in the
order of the events.  Other installations make no difference, and neither does what the texts are.

* `Filter.decides_iff`, `Filter.admits_iff_shows`: the directive with the longest target decides;
* `Session.log_call`, `Session.log_run`: the lines of one call, and of many;
* `log_shows_events`: the log of a run, before the logger is installed and after.
-/
import Reckon.Proofs.Installing
import Reckon.Proofs.LogLines

namespace Reckon

/-! ### What a filter shows -/

/-- The directive is for all events, or for those of targets that this is one of. -/
def Directive.Fits (d : Directive) (target : List Char) : Prop :=
  ∀ front, d.target = some front → front <+: target

theorem Directive.fits_iff {d : Directive} {target : List Char} :
    d.fits target = true ↔ d.Fits target := by
  rw [fits, Fits]
  cases d.target with
  | none => simp
  | some front => simp

namespace Filter

/-- Among the directives that fit the target this one is narrowed down the most, and it is the last
of those that are equally so. -/
def Decides (f : Filter) (target : List Char) (d : Directive) : Prop :=
  ∃ before after, f.directives = before ++ d :: after ∧ d.Fits target ∧
    (∀ e ∈ before, e.Fits target → e.specificity ≤ d.specificity) ∧
    ∀ e ∈ after, e.Fits target → e.specificity < d.specificity

/-- A directive decides on the event, and shows events up to its level. -/
def Shows (f : Filter) (e : Event) : Prop :=
  ∃ d last, f.Decides e.target.toList d ∧ d.threshold = some last ∧ e.level.detail ≤ last.detail

theorem decides_iff {f : Filter} {target : List Char} {d : Directive} :
    f.Decides target d ↔ f.deciding? target = some d := by
  rw [deciding?, Directive.narrowest_eq_some_iff]
  constructor
  · rintro ⟨before, after, hdirectives, hfits, hbefore, hafter⟩
    refine ⟨before.filter (·.fits target), after.filter (·.fits target), ?_, ?_, ?_⟩
    · rw [hdirectives, List.filter_append, List.filter_cons, if_pos (Directive.fits_iff.2 hfits)]
    · intro e he
      obtain ⟨hmem, he⟩ := List.mem_filter.1 he
      exact hbefore e hmem (Directive.fits_iff.1 he)
    · intro e he
      obtain ⟨hmem, he⟩ := List.mem_filter.1 he
      exact hafter e hmem (Directive.fits_iff.1 he)
  · rintro ⟨before, after, hfitting, hbefore, hafter⟩
    -- The others that do not fit stand somewhere between those that do.
    obtain ⟨front, back, hdirectives, rfl, hback⟩ := List.filter_eq_append_iff.1 hfitting
    obtain ⟨between, behind, rfl, hbetween, hd, rfl⟩ := List.filter_eq_cons_iff.1 hback
    refine ⟨front ++ between, behind, ?_, Directive.fits_iff.1 hd, ?_, ?_⟩
    · rw [hdirectives, List.append_assoc]
    · intro e he hfits
      rcases List.mem_append.1 he with he | he
      · exact hbefore e (List.mem_filter.2 ⟨he, Directive.fits_iff.2 hfits⟩)
      · exact absurd (Directive.fits_iff.2 hfits) (hbetween e he)
    · intro e he hfits
      exact hafter e (List.mem_filter.2 ⟨he, Directive.fits_iff.2 hfits⟩)

theorem admits_iff_shows {f : Filter} {e : Event} : f.admits e = true ↔ f.Shows e := by
  rw [admits_iff, Shows]
  refine exists_congr fun d => ?_
  rw [← decides_iff]
  cases hlast : d.threshold with
  | none => simp [Threshold.admits]
  | some last => simp [Threshold.admits]

instance (f : Filter) (e : Event) : Decidable (f.Shows e) :=
  decidable_of_iff (f.admits e = true) admits_iff_shows

end Filter

/-! ### The lines of calls -/

/-- What is reported while a call is answered. -/
def Call.events : Call → List Event
  | .calculate argument => (outcomeFor argument).2.toList
  | .calculateWithStatus argument _ => (outcomeFor argument).2.toList
  | _ => []

/-- The lines of the events that are shown, with the numbers from `first` on. -/
def LogLibrary.lines (library : LogLibrary) (filter : Filter) (first : Nat) (events : List Event) :
    List String :=
  (events.filter fun e => filter.Shows e).mapIdx fun i e => library.stamp (first + i) ++ e.line

theorem LogLibrary.lines_append (library : LogLibrary) (filter : Filter) (first : Nat)
    (front back : List Event) :
    library.lines filter first (front ++ back) =
      library.lines filter first front ++
        library.lines filter (first + (library.lines filter first front).length) back := by
  simp only [lines, List.filter_append, List.mapIdx_append, List.length_mapIdx, Nat.add_assoc,
    Nat.add_comm (List.length _)]

namespace Session

variable (s : Session) {filter : Filter}

theorem record_of_none (h : s.logger = none) (events : Array Event) : s.record events = s := by
  rw [record, h]

theorem log_record_of_some (h : s.logger = some filter) (events : List Event) :
    (s.record events.toArray).log.toList =
      s.log.toList ++ s.library.lines filter s.log.size events := by
  have hshows : filter.admits = fun e => decide (filter.Shows e) := by
    funext e
    rw [Bool.eq_iff_iff, decide_eq_true_iff]
    exact Filter.admits_iff_shows
  rw [record, h]
  dsimp only
  rw [Array.toList_append, Array.toList_mapIdx, Array.toList_filter, hshows]
  rfl

theorem log_record_nil : (s.record #[]).log = s.log := by
  rw [record]
  split
  · rfl
  · simp

/-- A call writes what is recorded of its events. -/
theorem log_call (c : Call) : (s.call c).2.log = (s.record c.events.toArray).log := by
  cases c with
  | calculate argument => rw [call_calculate, log_answered, Call.events, Array.toArray_toList]
  | calculateWithStatus argument status =>
    rw [call_calculateWithStatus, log_answered, Call.events, Array.toArray_toList]
  | read | version => exact s.log_record_nil.symm
  | free address =>
    match address with
    | none | some .version | some (.buffer _) => exact s.log_record_nil.symm
  | installLogger bytes =>
    rw [s.call_of_installs (.bytes bytes), installFilter_snd]
    exact s.log_record_nil.symm
  | installLoggerText text =>
    rw [s.call_of_installs (.text text), installFilter_snd]
    exact s.log_record_nil.symm

/-- As long as no filter is handed over nothing is written. -/
theorem log_run_of_none {cs : List Call} (h : s.logger = none)
    (hcs : ∀ c ∈ cs, c.filter? s.library = none) : (s.run cs).2.log = s.log := by
  induction cs generalizing s with
  | nil => rfl
  | cons c cs ih =>
    rw [List.forall_mem_cons] at hcs
    have hlogger : (s.call c).2.logger = none := by rw [logger_call, h, hcs.1, Option.or_none]
    have hrest : ∀ d ∈ cs, d.filter? (s.call c).2.library = none := by
      rw [library_call]
      exact hcs.2
    rw [run_cons, ih _ hlogger hrest, log_call, s.record_of_none h]

/-- With a logger each event that its filter shows is written, and nothing else. -/
theorem log_run_of_some {cs : List Call} (h : s.logger = some filter) :
    (s.run cs).2.log.toList =
      s.log.toList ++ s.library.lines filter s.log.size (cs.flatMap Call.events) := by
  induction cs generalizing s with
  | nil => exact (List.append_nil _).symm
  | cons c cs ih =>
    have hlogger : (s.call c).2.logger = some filter := by
      rw [logger_call, h]
      rfl
    have hlog : (s.call c).2.log.toList =
        s.log.toList ++ s.library.lines filter s.log.size c.events := by
      rw [log_call, s.log_record_of_some h]
    have hsize := congrArg List.length hlog
    rw [Array.length_toList, List.length_append, Array.length_toList] at hsize
    rw [run_cons, ih _ hlogger, library_call, hlog, hsize, List.flatMap_cons,
      LogLibrary.lines_append, List.append_assoc]

/-- Every line that is written shows an event of one of the calls, behind a time. -/
theorem exists_event_of_mem_log {cs : List Call} {line : String}
    (h : line ∈ (s.run cs).2.log.toList) :
    line ∈ s.log.toList ∨
      ∃ c ∈ cs, ∃ e ∈ c.events, ∃ i, s.library.stamp i ++ e.line = line := by
  induction cs generalizing s with
  | nil => exact .inl h
  | cons c cs ih =>
    have hrest := ih (s.call c).2 h
    rw [library_call] at hrest
    rcases hrest with hmem | ⟨c', hc', hevent⟩
    · rw [log_call] at hmem
      cases hlogger : s.logger with
      | none =>
        rw [s.record_of_none hlogger] at hmem
        exact .inl hmem
      | some filter =>
        rw [s.log_record_of_some hlogger] at hmem
        rcases List.mem_append.1 hmem with hmem | hmem
        · exact .inl hmem
        · obtain ⟨i, hi, rfl⟩ := List.mem_mapIdx.1 hmem
          have he := List.getElem_mem hi
          exact .inr ⟨c, List.mem_cons_self, _, (List.mem_filter.1 he).1, _, rfl⟩
    · exact .inr ⟨c', List.mem_cons_of_mem _ hc', hevent⟩

end Session

/-! ### Control characters -/

/-- The character is one of the controls, which are the first 32 characters, and the 33 from the
one behind the tilde on. -/
def Text.IsControl (c : Char) : Prop := c.toNat < 0x20 ∨ 0x7F ≤ c.toNat ∧ c.toNat < 0xA0

theorem Text.not_isControl {c : Char} (h : isPrintable c = true) : ¬ IsControl c := by
  rintro (hlow | ⟨hhigh, hlt⟩)
  · have hascii : c.toNat < 0x7F := by omega
    rw [isPrintable_ascii hascii, decide_eq_true_iff] at h
    omega
  · have hrange : (0x7F, 0xA0) ∈ unprintableRanges :=
      List.mem_cons_of_mem _ List.mem_cons_self
    have hany : (unprintableRanges.any fun range =>
        decide (range.1 ≤ c.toNat) && decide (c.toNat ≤ range.2)) = true := by
      refine List.any_eq_true.2 ⟨_, hrange, ?_⟩
      rw [decide_eq_true hhigh, decide_eq_true (Nat.le_of_lt hlt)]
      rfl
    rw [isPrintable, if_neg (Nat.not_lt.2 hhigh), hany] at h
    exact absurd h (by simp)

/-- What a call reports is written in printable characters. -/
theorem Call.allPrintable_of_mem_events {c : Call} {e : Event} (h : e ∈ c.events) :
    AllPrintable e.line := by
  cases c with
  | calculate argument => exact allPrintable_of_mem_outcomeFor (Array.mem_toList_iff.1 h)
  | calculateWithStatus argument status =>
    exact allPrintable_of_mem_outcomeFor (Array.mem_toList_iff.1 h)
  | read | free | version | installLogger | installLoggerText => exact absurd h List.not_mem_nil

/-- **The log shows the events that the filter lets through, one on each line.**  Nothing is written
before a call hands over a filter.  From the first such call on there is one line for each event of
the calls behind it that the filter shows, in the order of the events; whatever other calls there
are, those that hand over filters among them.  As long as the times in front of the lines are
printable, so are all characters of a line, and none is a line feed or another control, whatever the
texts are that the calls are about. -/
theorem log_shows_events (library : LogLibrary) :
    (∀ calls : List Call, (∀ c ∈ calls, ∀ filter, ¬ c.WithFilter library filter) →
      ((Session.start library).run calls).2.log = #[]) ∧
    (∀ (before after : List Call) (c : Call) (filter : Filter), c.WithFilter library filter →
      (∀ d ∈ before, ∀ filter, ¬ d.WithFilter library filter) →
      ((Session.start library).run (before ++ c :: after)).2.log.toList =
        ((after.flatMap Call.events).filter fun e => filter.Shows e).mapIdx fun i e =>
          library.stamp i ++ e.line) ∧
    ((∀ i, ∀ c ∈ (library.stamp i).toList, Text.isPrintable c = true) →
      ∀ (calls : List Call), ∀ line ∈ ((Session.start library).run calls).2.log.toList,
        ∀ c ∈ line.toList, Text.isPrintable c = true ∧ ¬ Text.IsControl c) := by
  refine ⟨fun calls hcalls => ?_, fun before after c filter hc hbefore => ?_,
    fun hstamp calls line hline c hc => ?_⟩
  · exact (Session.start library).log_run_of_none rfl fun c h =>
      Call.forall_not_withFilter_iff.1 (hcalls c h)
  · have hfilters : ∀ d ∈ before, d.filter? library = none := fun d h =>
      Call.forall_not_withFilter_iff.1 (hbefore d h)
    have hlog := (Session.start library).log_run_of_none rfl hfilters
    have hlogger := Session.logger_run_start library before
    have hlibrary : ((Session.start library).run before).2.library = library :=
      (Session.start library).library_run before
    rw [List.findSome?_eq_none_iff.2 hfilters] at hlogger
    rw [Session.run_append, Session.run_cons]
    generalize ((Session.start library).run before).2 = s at hlog hlogger hlibrary
    -- The call itself installs the logger, and writes nothing.
    have hinstalled : (s.call c).2.logger = some filter := by
      rw [Session.logger_call, hlogger, hlibrary, Call.withFilter_iff.1 hc, Option.none_or]
    have hempty : (s.call c).2.log = #[] := by
      rw [s.log_call, s.record_of_none hlogger, hlog]
      rfl
    rw [Session.log_run_of_some _ hinstalled, hempty, Session.library_call, hlibrary,
      LogLibrary.lines]
    simp only [List.nil_append, Array.size_empty, Nat.zero_add]
  · have hprintable : Text.isPrintable c = true := by
      rcases (Session.start library).exists_event_of_mem_log hline with
        hmem | ⟨call, -, e, he, i, rfl⟩
      · exact absurd hmem List.not_mem_nil
      · rw [String.toList_append] at hc
        rcases List.mem_append.1 hc with hc | hc
        · exact hstamp i c hc
        · exact Call.allPrintable_of_mem_events he c hc
    exact ⟨hprintable, Text.not_isControl hprintable⟩

/-- A library that writes the same time in front of all lines. -/
def LogLibrary.stopped : LogLibrary := ⟨Filter.read?, fun _ => "2024-02-29T12:00:00.000000Z "⟩

/-- A line feed and an escape character in a source are written by name and by code. -/
theorem log_shows_events_escapes :
    ((Session.start .stopped).run
      [.calculate (some ⟨#[0x31]⟩), .installLogger none]).2.log = #[] ∧
    ((Session.start .stopped).run [.installLogger none, .installLoggerText "calc_rt=debug",
        .calculate (some ⟨#[0x31, 0x0A, 0x1B]⟩), .installLoggerText "trace"]).2.log.toList =
      ["2024-02-29T12:00:00.000000Z DEBUG calc_rt: rendered " ++
        "source=\"1\\n\\u\x7b1b\x7d\" status=LexError " ++
        "text=error: unexpected character '\\u\x7b1b\x7d' at position 2"] ∧
    ∀ line ∈ ((Session.start .stopped).run [.installLoggerText "trace",
        .calculate (some ⟨#[0x31, 0x0A, 0x1B]⟩)]).2.log.toList,
      '\n' ∉ line.toList := by
  obtain ⟨hsilent, hlines, hprintable⟩ := log_shows_events .stopped
  have hnull (filter : Filter) : ¬ Call.WithFilter .stopped (.installLogger none) filter := by
    rintro ⟨⟩
  have hnone (argument : Option ByteArray) (filter : Filter) :
      ¬ Call.WithFilter .stopped (.calculate argument) filter := by
    rintro ⟨⟩
  have hread : LogLibrary.stopped.readFilter "calc_rt=debug" =
      some ⟨[⟨some "calc_rt".toList, some .debug⟩]⟩ := by decide +kernel
  have hstamp : AllPlain "2024-02-29T12:00:00.000000Z " := by decide
  refine ⟨?_, ?_, fun line hline hmem => ?_⟩
  · refine hsilent _ (List.forall_mem_cons.2 ⟨hnone _, List.forall_mem_singleton.2 hnull⟩)
  · refine (hlines [.installLogger none] _ _ _ (.text hread)
      (List.forall_mem_singleton.2 hnull)).trans ?_
    decide +kernel
  · exact (hprintable (fun _ => hstamp.allPrintable) _ line hline '\n' hmem).2 (.inl (by decide))

end Reckon
