/-
A logger is installed once.

Two calls ask for a logger, one with a byte string and one with a text.  What is handed over is a
filter or not, as the library has it that reads filters, and that is looked at first, whether there
is a logger already or not.  Of the calls that hand over a filter the first installs the logger; no
later call changes it.

* `Call.withFilter_iff`, `Call.withoutFilter_iff`: whether a call hands over a filter;
* `Session.logger_call`, `Session.logger_run`: the logger after one call, and after many;
* `Session.call_of_installs`: the reply to a call that asks for a logger;
* `logger_installed_once`: both, at each place of a run.
-/
import Reckon.Proofs.Independence

namespace Reckon

/-! ### What a call asks for -/

namespace Call

/-- The call asks for a logger. -/
inductive Installs : Call → Prop where
  | bytes (bytes : Option ByteArray) : Installs (.installLogger bytes)
  | text (text : String) : Installs (.installLoggerText text)

/-- The call asks for a logger with the filter. -/
inductive WithFilter (library : LogLibrary) : Call → Filter → Prop where
  | bytes {bytes : ByteArray} {text : String} {filter : Filter} (htext : UpToNul bytes text.toUTF8)
      (hread : library.readFilter text = some filter) :
      WithFilter library (.installLogger (some bytes)) filter
  | text {text : String} {filter : Filter} (hread : library.readFilter text = some filter) :
      WithFilter library (.installLoggerText text) filter

/-- The call asks for a logger, and what it hands over is no filter. -/
inductive WithoutFilter (library : LogLibrary) : Call → Prop where
  /-- There is nothing. -/
  | null : WithoutFilter library (.installLogger none)
  /-- Up to the first NUL byte there is no text. -/
  | malformed {bytes front : ByteArray} (hfront : UpToNul bytes front)
      (hnot : ∀ text : String, text.toUTF8 ≠ front) :
      WithoutFilter library (.installLogger (some bytes))
  /-- There is a text, and it is not that of a filter. -/
  | bytes {bytes : ByteArray} {text : String} (htext : UpToNul bytes text.toUTF8)
      (hread : library.readFilter text = none) :
      WithoutFilter library (.installLogger (some bytes))
  | text {text : String} (hread : library.readFilter text = none) :
      WithoutFilter library (.installLoggerText text)

/-- The filter that a call hands over. -/
def filter? (library : LogLibrary) : Call → Option Filter
  | .installLogger bytes => (bytes.bind CString.read).bind library.readFilter
  | .installLoggerText text => library.readFilter text
  | _ => none

variable {library : LogLibrary} {c : Call} {filter : Filter}

theorem withFilter_iff : c.WithFilter library filter ↔ c.filter? library = some filter := by
  constructor
  · intro h
    cases h with
    | bytes htext hread =>
      rw [filter?, Option.bind_some, CString.read_eq_some_iff.2 htext, Option.bind_some, hread]
    | text hread => exact hread
  · intro h
    cases c with
    | installLogger argument =>
      obtain ⟨text, htext, hread⟩ := Option.bind_eq_some_iff.1 h
      obtain ⟨bytes, rfl, hbytes⟩ := Option.bind_eq_some_iff.1 htext
      exact .bytes (CString.read_eq_some_iff.1 hbytes) hread
    | installLoggerText text => exact .text h
    | calculate | calculateWithStatus | read | free | version =>
      exact absurd h (by simp [filter?])

theorem exists_withFilter_iff :
    (∃ filter, c.WithFilter library filter) ↔ c.filter? library ≠ none := by
  rw [Option.ne_none_iff_exists']
  exact exists_congr fun _ => withFilter_iff

theorem forall_not_withFilter_iff :
    (∀ filter, ¬ c.WithFilter library filter) ↔ c.filter? library = none := by
  rw [← not_exists, exists_withFilter_iff, not_not]

theorem filter?_of_not_installs (h : ¬ c.Installs) : c.filter? library = none := by
  cases c with
  | installLogger bytes => exact absurd (.bytes bytes) h
  | installLoggerText text => exact absurd (.text text) h
  | calculate | calculateWithStatus | read | free | version => rfl

/-- Of the calls that ask for a logger those hand over no filter that none is read from. -/
theorem withoutFilter_iff (hc : c.Installs) :
    c.WithoutFilter library ↔ c.filter? library = none := by
  constructor
  · intro h
    cases h with
    | null => rfl
    | malformed hfront hnot =>
      rw [filter?, Option.bind_some, (CString.read_eq_none_iff hfront).2 hnot]
      rfl
    | bytes htext hread =>
      rw [filter?, Option.bind_some, CString.read_eq_some_iff.2 htext, Option.bind_some, hread]
    | text hread => exact hread
  · intro h
    cases hc with
    | text text => exact .text h
    | bytes argument =>
      cases argument with
      | none => exact .null
      | some bytes =>
        cases hbytes : CString.read bytes with
        | none =>
          have hfront := upToNul_iff.2 (Eq.refl (CString.untilNul bytes))
          exact .malformed hfront ((CString.read_eq_none_iff hfront).1 hbytes)
        | some text =>
          rw [filter?, Option.bind_some, hbytes, Option.bind_some] at h
          exact .bytes (CString.read_eq_some_iff.1 hbytes) h

end Call

/-! ### Calls one after another -/

namespace Session

variable (s : Session)

theorem run_cons (c : Call) (cs : List Call) :
    s.run (c :: cs) = ((s.call c).1 :: ((s.call c).2.run cs).1, ((s.call c).2.run cs).2) := rfl

theorem run_append (cs ds : List Call) :
    s.run (cs ++ ds) = ((s.run cs).1 ++ ((s.run cs).2.run ds).1, ((s.run cs).2.run ds).2) := by
  induction cs generalizing s with
  | nil => rfl
  | cons c cs ih => rw [List.cons_append, run_cons, ih, run_cons, List.cons_append]

theorem length_run (cs : List Call) : (s.run cs).1.length = cs.length := by
  induction cs generalizing s with
  | nil => rfl
  | cons c cs ih => rw [run_cons, List.length_cons, List.length_cons, ih]

/-- Each reply is that to the call at its place, after the calls in front of it. -/
theorem getElem?_run (before after : List Call) (c : Call) :
    (s.run (before ++ c :: after)).1[before.length]? = some ((s.run before).2.call c).1 := by
  rw [run_append, ← s.length_run before, List.getElem?_append_right (Nat.le_refl _), Nat.sub_self]
  rfl

/-! ### The logger -/

/-- Installs a logger with a filter, if there is one and there is no logger yet. -/
def installFilter : Option Filter → Except InstallError Unit × Session
  | none => (.error .filter, s)
  | some filter =>
    match s.logger with
    | some _ => (.error .alreadyInstalled, s)
    | none => (.ok (), { s with logger := some filter })

theorem installFilter_of_some {logger : Filter} (h : s.logger = some logger) (filter : Filter) :
    s.installFilter (some filter) = (.error .alreadyInstalled, s) := by
  rw [installFilter, h]

theorem installFilter_of_none (h : s.logger = none) (filter : Filter) :
    s.installFilter (some filter) = (.ok (), { s with logger := some filter }) := by
  rw [installFilter, h]

theorem install_eq (text : String) :
    s.install text = s.installFilter (s.library.readFilter text) := by
  rw [install]
  cases s.library.readFilter text with
  | none => rfl
  | some filter => cases hlogger : s.logger <;> rw [installFilter, hlogger]

theorem installBytes_eq (bytes : Option ByteArray) :
    s.installBytes bytes =
      s.installFilter ((bytes.bind CString.read).bind s.library.readFilter) := by
  rw [installBytes]
  cases bytes.bind CString.read with
  | none => rfl
  | some text => exact s.install_eq text

/-- The reply to a call that asks for a logger goes by the filter that it hands over. -/
theorem call_of_installs {c : Call} (hc : c.Installs) :
    s.call c =
      (.install (s.installFilter (c.filter? s.library)).1,
        (s.installFilter (c.filter? s.library)).2) := by
  cases hc with
  | bytes bytes => rw [call, installBytes_eq, Call.filter?]
  | text text => rw [call, install_eq, Call.filter?]

/-- An installation changes nothing but the logger, and that only if there is none. -/
theorem installFilter_snd (filter : Option Filter) :
    (s.installFilter filter).2 = { s with logger := s.logger.or filter } := by
  cases filter with
  | none =>
    rw [Option.or_none]
    rfl
  | some filter =>
    cases hlogger : s.logger with
    | some logger =>
      rw [s.installFilter_of_some hlogger, Option.or_some, Option.getD_some, ← hlogger]
    | none => rw [s.installFilter_of_none hlogger, Option.none_or]

/-- The library is the same at all times. -/
theorem library_call (c : Call) : (s.call c).2.library = s.library := by
  cases c with
  | calculate argument => rw [call_calculate, library_answered]
  | calculateWithStatus argument status => rw [call_calculateWithStatus, library_answered]
  | read | version => rfl
  | free address =>
    match address with
    | none | some .version | some (.buffer _) => rfl
  | installLogger bytes => rw [s.call_of_installs (.bytes bytes), installFilter_snd]
  | installLoggerText text => rw [s.call_of_installs (.text text), installFilter_snd]

theorem library_run (cs : List Call) : (s.run cs).2.library = s.library := by
  induction cs generalizing s with
  | nil => rfl
  | cons c cs ih => rw [run_cons, ih, library_call]

/-- The logger after a call is the one that there was, or else that of the filter handed over. -/
theorem logger_call (c : Call) : (s.call c).2.logger = s.logger.or (c.filter? s.library) := by
  cases c with
  | calculate argument =>
    rw [call_calculate, logger_answered]
    exact Option.or_none.symm
  | calculateWithStatus argument status =>
    rw [call_calculateWithStatus, logger_answered]
    exact Option.or_none.symm
  | read | version => exact Option.or_none.symm
  | free address =>
    match address with
    | none | some .version | some (.buffer _) => exact Option.or_none.symm
  | installLogger bytes => rw [s.call_of_installs (.bytes bytes), installFilter_snd]
  | installLoggerText text => rw [s.call_of_installs (.text text), installFilter_snd]

/-- The logger after many calls is that of the first filter handed over. -/
theorem logger_run (cs : List Call) :
    (s.run cs).2.logger = s.logger.or (cs.findSome? (Call.filter? s.library)) := by
  induction cs generalizing s with
  | nil => exact Option.or_none.symm
  | cons c cs ih =>
    rw [run_cons, ih, logger_call, library_call, Option.or_assoc, List.findSome?_cons]
    cases c.filter? s.library <;> rfl

theorem logger_run_start (library : LogLibrary) (cs : List Call) :
    ((start library).run cs).2.logger = cs.findSome? (Call.filter? library) :=
  (start library).logger_run cs

/-- A call that installs no logger leaves the one that there is. -/
theorem logger_call_of_ne {c : Call} (h : (s.call c).1 ≠ .install (.ok ())) :
    (s.call c).2.logger = s.logger := by
  rw [logger_call]
  by_cases hc : c.Installs
  · rw [call_of_installs s hc] at h
    cases hfilter : c.filter? s.library with
    | none => exact Option.or_none
    | some filter =>
      cases hlogger : s.logger with
      | some logger => rfl
      | none =>
        rw [hfilter, s.installFilter_of_none hlogger] at h
        exact absurd rfl h
  · rw [Call.filter?_of_not_installs hc, Option.or_none]

/-- An installation that fails leaves everything as it is. -/
theorem call_of_error {c : Call} {error : InstallError}
    (h : (s.call c).1 = .install (.error error)) : (s.call c).2 = s := by
  by_cases hc : c.Installs
  · rw [call_of_installs s hc] at h ⊢
    cases hfilter : c.filter? s.library with
    | none => rfl
    | some filter =>
      cases hlogger : s.logger with
      | some logger => rw [s.installFilter_of_some hlogger]
      | none =>
        rw [hfilter, s.installFilter_of_none hlogger] at h
        exact absurd (Reply.install.inj h) (by simp)
  · cases c with
    | installLogger bytes => exact absurd (.bytes bytes) hc
    | installLoggerText text => exact absurd (.text text) hc
    | calculate argument => exact absurd h (by simp [call_calculate])
    | calculateWithStatus argument status => exact absurd h (by simp [call_calculateWithStatus])
    | read | free | version => exact absurd h (by simp [call])

end Session

/-- **A logger is installed once, and whether there is a filter is looked at first.**  Which texts
are those of filters is up to the library, whichever that is.  A call that asks for a logger,
anywhere among other calls, is told that its filter cannot be read if and only if it hands over
none.  Of the others the first one installs the logger, and those behind it are told that there is
one.  No call but that one changes the logger; so it is that of the first filter that was handed
over, at each time. -/
theorem logger_installed_once (library : LogLibrary) :
    (∀ (before after : List Call) (c : Call), c.Installs →
      ∃ result,
        ((Session.start library).run (before ++ c :: after)).1[before.length]? =
          some (.install result) ∧
        (result, installCode result) ∈
          [(.ok (), 0), (.error .filter, 1), (.error .alreadyInstalled, 2)] ∧
        (result = .error .filter ↔ c.WithoutFilter library) ∧
        (result = .ok () ↔
          (∃ filter, c.WithFilter library filter) ∧
            ∀ d ∈ before, ∀ filter, ¬ d.WithFilter library filter) ∧
        (result = .error .alreadyInstalled ↔
          (∃ filter, c.WithFilter library filter) ∧
            ∃ d ∈ before, ∃ filter, d.WithFilter library filter)) ∧
    (∀ (s : Session) (c : Call), (s.call c).1 ≠ .install (.ok ()) →
      (s.call c).2.logger = s.logger) ∧
    (∀ (s : Session) (c : Call) (error : InstallError),
      (s.call c).1 = .install (.error error) → (s.call c).2 = s) ∧
    ∀ (calls : List Call) (filter : Filter),
      ((Session.start library).run calls).2.logger = some filter ↔
        ∃ before c after, calls = before ++ c :: after ∧ c.WithFilter library filter ∧
          ∀ d ∈ before, ∀ filter, ¬ d.WithFilter library filter := by
  refine ⟨fun before after c hc => ?_, fun s c => s.logger_call_of_ne,
    fun s c error => s.call_of_error, fun calls filter => ?_⟩
  · have hreply := (Session.start library).getElem?_run before after c
    have hlogger := Session.logger_run_start library before
    have hlibrary : ((Session.start library).run before).2.library = library :=
      (Session.start library).library_run before
    generalize ((Session.start library).run before).2 = s at hreply hlogger hlibrary
    rw [s.call_of_installs hc, hlibrary] at hreply
    have hnone : (∀ d ∈ before, ∀ filter, ¬ d.WithFilter library filter) ↔ s.logger = none := by
      rw [hlogger, List.findSome?_eq_none_iff]
      exact forall₂_congr fun d _ => Call.forall_not_withFilter_iff
    have hsome : (∃ d ∈ before, ∃ filter, d.WithFilter library filter) ↔ s.logger ≠ none := by
      rw [Ne, ← hnone]
      push Not
      rfl
    refine ⟨_, hreply, ?_⟩
    rw [hnone, hsome, Call.withoutFilter_iff hc, Call.exists_withFilter_iff]
    cases hfilter : c.filter? library with
    | none => simp [Session.installFilter, installCode]
    | some filter =>
      cases hlogger : s.logger with
      | none => simp [s.installFilter_of_none hlogger, installCode]
      | some logger => simp [s.installFilter_of_some hlogger, installCode]
  · rw [Session.logger_run_start, List.findSome?_eq_some_iff]
    refine exists₃_congr fun before c after => and_congr_right fun _ => ?_
    exact and_congr Call.withFilter_iff.symm
      (forall₂_congr fun d _ => Call.forall_not_withFilter_iff.symm)

/-- Behind a null pointer and a filter, a byte that is no text is told from another filter. -/
theorem logger_installed_once_run :
    (Session.fresh.run [.installLogger none, .installLoggerText "info",
      .installLogger (some ⟨#[0xFF]⟩)]).1[2]? = some (.install (.error .filter)) ∧
    (Session.fresh.run [.installLogger none, .installLoggerText "info",
      .installLoggerText "debug"]).1[2]? = some (.install (.error .alreadyInstalled)) ∧
    (Session.fresh.run [.installLogger none, .installLoggerText "info",
      .installLoggerText "debug"]).2.logger = some ⟨[⟨none, some .info⟩]⟩ := by
  obtain ⟨hreplies, -, -, hlogger⟩ := logger_installed_once .plain
  have hinfo : Filter.read? "info" = some ⟨[⟨none, some .info⟩]⟩ := by decide +kernel
  have hdebug : Filter.read? "debug" = some ⟨[⟨none, some .debug⟩]⟩ := by decide +kernel
  have hbytes : Call.WithoutFilter .plain (.installLogger (some ⟨#[0xFF]⟩)) :=
    .malformed (upToNul_iff.2 rfl) (fromUTF8?_eq_none_iff.1 (by decide +kernel))
  have hnull (filter : Filter) : ¬ Call.WithFilter .plain (.installLogger none) filter := by
    rintro ⟨⟩
  refine ⟨?_, ?_, ?_⟩
  · obtain ⟨result, hreply, -, hfilter, -, -⟩ :=
      hreplies [.installLogger none, .installLoggerText "info"] [] _ (.bytes (some ⟨#[0xFF]⟩))
    rw [hfilter.2 hbytes] at hreply
    exact hreply
  · obtain ⟨result, hreply, -, -, -, halready⟩ :=
      hreplies [.installLogger none, .installLoggerText "info"] [] _ (.text "debug")
    have hbefore : ∃ d ∈ [.installLogger none, .installLoggerText "info"],
        ∃ filter, Call.WithFilter .plain d filter :=
      ⟨.installLoggerText "info", by simp, _, .text hinfo⟩
    rw [halready.2 ⟨⟨_, .text hdebug⟩, hbefore⟩] at hreply
    exact hreply
  · refine (hlogger _ _).2 ⟨[.installLogger none], _, _, rfl, .text hinfo, ?_⟩
    exact List.forall_mem_singleton.2 hnull

end Reckon
