import Parlance.Proofs.Command.Failure
import Parlance.Proofs.CommandLine.Delivery
import Parlance.Proofs.CommandLine.Line
import Parlance.Proofs.Guarded

/-!
# Runs of the command line

Every message is read as a command or rejected (`exists_reads`), by itself and whatever stands
around it. So a run is put together from what its messages give, in order: lines for the commands,
warnings and reports for the errors, and a failure if there is one among the messages.

What is logged besides the warnings is logged in such detail that only a filter for tracing a run
lets it through. All others, and so the one that is used by default, are terse (`Filter.Terse`).
-/

namespace Parlance.CommandLine

open Command

/-! ## Outcomes in a row -/

namespace Outcome

/-- Several outcomes, one after another. -/
def all (outcomes : List Outcome) : Outcome := outcomes.foldr (· ++ ·) .empty

lemma append_assoc (a b c : Outcome) : a ++ b ++ c = a ++ (b ++ c) := by
  show append (append a b) c = append a (append b c)
  simp only [append, String.append_assoc, List.append_assoc, Bool.or_assoc]

lemma all_append (first second : List Outcome) :
    all (first ++ second) = all first ++ all second := by
  induction first with
  | nil =>
    show all second = append empty (all second)
    simp [append, empty]
  | cons outcome first ih =>
    show outcome ++ all (first ++ second) = outcome ++ all first ++ all second
    rw [ih, append_assoc]

lemma exitCode_append_eq_zero_iff (a b : Outcome) :
    (a ++ b).exitCode = 0 ↔ a.exitCode = 0 ∧ b.exitCode = 0 := by
  show (append a b).exitCode = 0 ↔ _
  unfold append exitCode
  cases a.failed <;> cases b.failed <;> simp

end Outcome

/-! ## Filters -/

namespace Filter

variable {log : Filter}

/-- Nothing that is less urgent than information gets through. -/
def Terse (log : Filter) : Prop :=
  ∀ event, log.admits event = true → event.level.place ≤ Level.info.place

lemma terse_upTo {level : Level} (h : level.place ≤ Level.info.place) : (upTo level).Terse :=
  fun _ hadmits => Nat.le_trans (of_decide_eq_true hadmits) h

lemma terse_standard : standard.Terse := terse_upTo (by decide)

/-- What the log writes for an event, where `line` is what it writes if the event gets through. -/
def written (log : Filter) (line : Event → String) (event : Event) : String :=
  if log.admits event then line event else ""

lemma pass_append (log : Filter) (first second : List Event) :
    log.pass (first ++ second) = log.pass first ++ log.pass second := by
  rw [pass, List.filter_append, List.map_append]
  rfl

namespace Terse

variable (hlog : log.Terse)

include hlog

lemma pass_eq_nil {events : List Event}
    (h : ∀ event ∈ events, Level.info.place < event.level.place) : log.pass events = [] := by
  rw [pass, List.map_eq_nil_iff, List.filter_eq_nil_iff]
  exact fun event hevent hadmits => Nat.not_lt.mpr (hlog event hadmits) (h event hevent)

/-- How the command is declared and where the messages come from is not logged. -/
lemma pass_opening (o : Options) (environment : Option String) :
    log.pass (o.opening environment) = [] := by
  refine hlog.pass_eq_nil ?_
  unfold Options.opening
  dsimp only
  split <;> simp [Event.level, Level.place]

/-- Of a message only the warning is logged, if it is rejected. -/
lemma pass_eventsOf (s : Signature) (message : String) (result : Except ParseError Command) :
    log.pass (eventsOf s message result) =
      match result with
      | .ok _ => []
      | .error _ => log.pass [.rejected message s.required] := by
  unfold eventsOf
  split
  · exact hlog.pass_eq_nil (by simp [Event.level, Level.place])
  · next offset symbol =>
    have hstalled : log.pass [.stalled offset] = [] :=
      hlog.pass_eq_nil (by simp [Event.level, Level.place])
    dsimp only
    rw [← List.singleton_append, pass_append, hstalled, List.nil_append]
  · rfl

end Terse

end Filter

/-! ## Messages -/

variable {o : Options} {environment : Option String} {log : Filter} {message : String}

/-- What a message is read as: a command, or the error for which it is rejected. -/
def Options.Reads (o : Options) (environment : Option String) (message : String)
    (result : Except ParseError Command) : Prop :=
  ∃ c n, (o.signature environment).parser.parseText message = .ok ⟨result, c, n⟩

/-- Every message is read as something. -/
theorem exists_reads (o : Options) (environment : Option String) (message : String) :
    ∃ result, o.Reads environment message result := by
  have halike := Parse.AnswerAlike.compositional ((Cursor.ofString message).ahead.length + 1)
  have hkinds : ∀ a ∈ (o.signature environment).arguments,
      Parse.AnswerAlike ((Cursor.ofString message).ahead.length + 1) Value a.kind.parse
        a.kind.parse := by
    intro a ha
    obtain ⟨required, name, -, rfl⟩ := Options.exists_of_mem_arguments ha
    have hkind := halike.convert halike.string Value.str
    exact halike.parse hkind
  obtain ⟨⟨result, c, n⟩, hreply, -⟩ :=
    halike.parse (halike.signature hkinds) (.ofString message) (Nat.lt_succ_self _)
  exact ⟨result, c, n, hreply⟩

lemma runMessage_eq {result : Except ParseError Command} (h : o.Reads environment message result) :
    runMessage (o.signature environment) log o.json message =
      outcomeOf (o.signature environment) log o.json message result := by
  obtain ⟨c, n, hreply⟩ := h
  unfold runMessage
  rw [hreply]

/-- The log is told that a message has come to a halt just if it is rejected for its arguments. -/
theorem eventsOf_of_rejectsAt {s : Signature} {stage : Signature.Stage} {e : ParseError}
    {c : Cursor} (h : s.RejectsAt message stage e c) :
    eventsOf s message (.error e) =
      match stage with
      | .opening | .label => [.rejected message s.required]
      | .arguments => [.stalled (byteLength message.toList), .rejected message s.required] := by
  cases h <;> rfl

/-! ## Runs -/

/-- The commands among the results, in order. -/
def commandsOf (entries : List (String × Except ParseError Command)) : List Command :=
  entries.filterMap fun (_, result) => result.toOption

/-- The messages that were rejected, in order, each with the error. -/
def rejectionsOf (entries : List (String × Except ParseError Command)) :
    List (String × ParseError) :=
  entries.filterMap fun (message, result) =>
    match result with
    | .ok _ => none
    | .error e => some (message, e)

/-- What a message writes to the standard error, by what it is read as: what gets through to the
log, and the report if it is rejected. -/
def diagnosticsOf (s : Signature) (log : Filter) (entry : String × Except ParseError Command) :
    List Diagnostic :=
  log.pass (eventsOf s entry.1 entry.2) ++
    match entry.2 with
    | .ok _ => []
    | .error e => [.report (e.report entry.1)]

lemma unlines_cons (line : String) (lines : List String) :
    unlines (line :: lines) = line ++ "\n" ++ unlines lines := by
  rw [unlines, List.map_cons, String.join_cons, unlines]

/-- One message after another. -/
lemma all_outcomeOf (s : Signature) (log : Filter) (json : Bool)
    (entries : List (String × Except ParseError Command)) :
    Outcome.all (entries.map fun (message, result) => outcomeOf s log json message result) =
      ⟨unlines ((commandsOf entries).map (lineOf json)), entries.flatMap (diagnosticsOf s log),
        !entries.all (·.2.isOk)⟩ := by
  induction entries with
  | nil => rfl
  | cons entry entries ih =>
    obtain ⟨message, result⟩ := entry
    show outcomeOf s log json message result ++ Outcome.all (entries.map _) = _
    rw [ih, List.flatMap_cons]
    cases result with
    | ok command =>
      have hcommands : commandsOf ((message, .ok command) :: entries) =
          command :: commandsOf entries := rfl
      have hall : ((message, Except.ok command) :: entries).all (·.2.isOk) =
          entries.all (·.2.isOk) := rfl
      rw [hcommands, hall, List.map_cons, unlines_cons]
      show Outcome.append _ _ = _
      simp [Outcome.append, outcomeOf, diagnosticsOf]
    | error e =>
      have hcommands : commandsOf ((message, .error e) :: entries) = commandsOf entries := rfl
      have hall : ((message, Except.error e) :: entries).all (·.2.isOk) = false := rfl
      rw [hcommands, hall]
      show Outcome.append _ _ = _
      simp [Outcome.append, outcomeOf, diagnosticsOf]

/-- Of a log that is terse, warnings are written, each in front of the report on its message. -/
lemma join_diagnosticsOf (hlog : log.Terse) (s : Signature) (line : Event → String)
    (entries : List (String × Except ParseError Command)) :
    String.join ((entries.flatMap (diagnosticsOf s log)).map (Diagnostic.text line)) =
      String.join ((rejectionsOf entries).map fun (message, e) =>
        log.written line (.rejected message s.required) ++ e.report message ++ "\n") := by
  induction entries with
  | nil => rfl
  | cons entry entries ih =>
    obtain ⟨message, result⟩ := entry
    rw [List.flatMap_cons, List.map_append, String.join_append, ih, diagnosticsOf,
      hlog.pass_eventsOf]
    cases result with
    | ok command => rfl
    | error e =>
      have hrejections : rejectionsOf ((message, .error e) :: entries) =
          (message, e) :: rejectionsOf entries := rfl
      rw [hrejections, List.map_cons, String.join_cons]
      congr 1
      unfold Filter.pass Filter.written
      by_cases hadmits : log.admits (.rejected message s.required) = true
      · simp [hadmits, Diagnostic.text, String.append_assoc]
      · simp [hadmits, Diagnostic.text]

/-- The entries of a run: its messages, in order, each with what it is read as. -/
def Options.Entries (o : Options) (environment : Option String) (input : String)
    (entries : List (String × Except ParseError Command)) : Prop :=
  entries.map Prod.fst = o.allMessages input ∧
    ∀ entry ∈ entries, o.Reads environment entry.1 entry.2

lemma exists_entries (o : Options) (environment : Option String) (input : String) :
    ∃ entries, o.Entries environment input entries := by
  unfold Options.Entries
  induction o.allMessages input with
  | nil => exact ⟨[], rfl, List.forall_mem_nil _⟩
  | cons message messages ih =>
    obtain ⟨entries, hmessages, hreads⟩ := ih
    obtain ⟨result, hresult⟩ := exists_reads o environment message
    exact ⟨(message, result) :: entries, by rw [List.map_cons, hmessages],
      List.forall_mem_cons.mpr ⟨hresult, hreads⟩⟩

section Messages

variable (o : Options) (environment : Option String) (input : String) (log : Filter)

/-- What the messages of a run give. -/
def allOf : Outcome :=
  Outcome.all ((o.allMessages input).map (runMessage (o.signature environment) log o.json))

lemma output_run : (run o environment input log).output = (allOf o environment input log).output :=
  String.empty_append

lemma exitCode_run :
    (run o environment input log).exitCode = (allOf o environment input log).exitCode :=
  rfl

/-- A run of which the log is terse is nothing but its messages. -/
lemma run_eq_allOf (hlog : log.Terse) :
    run o environment input log = allOf o environment input log := by
  show Outcome.append (.logged (log.pass (o.opening environment))) (allOf _ _ _ _) = _
  rw [hlog.pass_opening]
  simp [Outcome.append, Outcome.logged]

end Messages

/-- A run prints the lines of the commands that are read, writes to the standard error what its
messages give, and fails if one of them is rejected. -/
theorem run_eq {input : String} {entries : List (String × Except ParseError Command)}
    (h : o.Entries environment input entries) :
    run o environment input log =
      ⟨unlines ((commandsOf entries).map (lineOf o.json)),
        log.pass (o.opening environment) ++
          entries.flatMap (diagnosticsOf (o.signature environment) log),
        !entries.all (·.2.isOk)⟩ := by
  obtain ⟨hmessages, hreads⟩ := h
  have hall : (o.allMessages input).map (runMessage (o.signature environment) log o.json) =
      entries.map fun (message, result) =>
        outcomeOf (o.signature environment) log o.json message result := by
    rw [← hmessages, List.map_map]
    exact List.map_congr_left fun entry hentry => runMessage_eq (hreads entry hentry)
  show Outcome.append (.logged (log.pass (o.opening environment))) (Outcome.all _) = _
  rw [hall, all_outcomeOf]
  simp [Outcome.append, Outcome.logged]

lemma count_newline_unlines {lines : List String} (h : ∀ line ∈ lines, '\n' ∉ line.toList) :
    (unlines lines).toList.count '\n' = lines.length := by
  induction lines with
  | nil => rfl
  | cons line lines ih =>
    obtain ⟨hline, hlines⟩ := List.forall_mem_cons.mp h
    rw [unlines_cons, String.toList_append, String.toList_append, List.count_append,
      List.count_append, List.count_eq_zero_of_not_mem hline, ih hlines, List.length_cons]
    show 0 + 1 + lines.length = lines.length + 1
    omega

/-- If there are messages among the arguments, the run goes through them, whatever the input is. -/
lemma allMessages_of_ne_nil {messages : List String} (hne : messages ≠ []) (o : Options)
    (input : String) : Options.allMessages { o with messages := messages } input = messages :=
  if_neg (by simpa using hne)

/-- Without messages among the arguments, the run goes through the lines of the input. -/
lemma allMessages_unlines {messages : List String} (hempty : o.messages = [])
    (hlines : ∀ message ∈ messages, IsLine message) :
    o.allMessages (unlines messages) = messages := by
  rw [Options.allMessages, hempty, List.isEmpty_nil, if_pos rfl, splitLines_unlines hlines]

/-- A run is put together from what its messages give, in order, and every message gives the same
whether it is an argument or a line of the input. What it prints is the lines of the commands that
are read. To the standard error it writes what is logged before the first message, and for each
message what is logged of it and the report if it is rejected; it fails if there is one of these.
As long as the log is terse, which it is by default, all that is logged is the warnings, each in
front of its report. So two lists of messages may as well be given to two runs. If no newline gets
into a line as it is, there are as many lines as commands. -/
theorem run_folds_messages (o : Options) (environment : Option String) (log : Filter) :
    (∀ input, ∃ entries, o.Entries environment input entries ∧
      let s := o.signature environment
      let outcome := run o environment input log
      outcome.output = unlines ((commandsOf entries).map (lineOf o.json)) ∧
      outcome.diagnostics =
        log.pass (o.opening environment) ++ entries.flatMap (diagnosticsOf s log) ∧
      (log.Terse → ∀ line, outcome.errors line =
        String.join ((rejectionsOf entries).map fun (message, e) =>
          log.written line (.rejected message s.required) ++ e.report message ++ "\n")) ∧
      outcome.exitCode = (if ∀ entry ∈ entries, entry.2.isOk = true then 0 else 1) ∧
      (o.OnOneLine environment →
        (∀ command ∈ commandsOf entries, '\n' ∉ (lineOf o.json command).toList) ∧
          outcome.output.toList.count '\n' = (commandsOf entries).length)) ∧
    (∀ first second, first ≠ [] → second ≠ [] → ∀ input input₁ input₂,
      let whole := run { o with messages := first ++ second } environment input log
      let front := run { o with messages := first } environment input₁ log
      let back := run { o with messages := second } environment input₂ log
      whole.output = front.output ++ back.output ∧
        (log.Terse → whole.diagnostics = front.diagnostics ++ back.diagnostics) ∧
        (whole.exitCode ≠ 0 ↔ front.exitCode ≠ 0 ∨ back.exitCode ≠ 0)) ∧
    ∀ arguments messages, "--" ∉ arguments → Options.ofArguments arguments = .ok o →
      o.messages = [] → messages ≠ [] → (∀ message ∈ messages, IsLine message) →
      Options.ofArguments (arguments ++ "--" :: messages) = .ok { o with messages := messages } ∧
        ∀ input,
          let direct := run { o with messages := messages } environment input log
          let piped := run o environment (unlines messages) log
          direct.output = piped.output ∧ (log.Terse → direct.diagnostics = piped.diagnostics) ∧
            direct.exitCode = piped.exitCode := by
  refine ⟨fun input => ?_, ?_, ?_⟩
  · obtain ⟨entries, hentries⟩ := exists_entries o environment input
    have hrun : run o environment input log = _ := run_eq hentries
    refine ⟨entries, hentries, ?_⟩
    dsimp only
    rw [hrun]
    refine ⟨rfl, rfl, fun hlog line => ?_, ?_, fun honeLine => ?_⟩
    · rw [Outcome.errors, hlog.pass_opening, List.nil_append, join_diagnosticsOf hlog]
    · rw [Outcome.exitCode]
      by_cases hall : ∀ entry ∈ entries, entry.2.isOk = true
      · rw [if_pos hall, List.all_eq_true.mpr hall]
        rfl
      · rw [if_neg hall, Bool.eq_false_iff.mpr (mt List.all_eq_true.mp hall)]
        rfl
    · have hlines : ∀ command ∈ commandsOf entries, '\n' ∉ (lineOf o.json command).toList := by
        intro command hcommand
        obtain ⟨⟨message, result⟩, hentry, hresult⟩ := List.mem_filterMap.mp hcommand
        obtain ⟨c, n, hreply⟩ := hentries.2 _ hentry
        cases result with
        | error e => cases hresult
        | ok read =>
          cases hresult
          exact newline_not_mem_lineOf honeLine ⟨n, hreply⟩
      refine ⟨hlines, ?_⟩
      rw [count_newline_unlines (List.forall_mem_map.mpr hlines), List.length_map]
  · intro first second hfirst hsecond input input₁ input₂
    have hne : first ++ second ≠ [] := by simp [hfirst]
    have hall : allOf { o with messages := first ++ second } environment input log =
        allOf { o with messages := first } environment input₁ log ++
          allOf { o with messages := second } environment input₂ log := by
      unfold allOf
      rw [allMessages_of_ne_nil hne, allMessages_of_ne_nil hfirst, allMessages_of_ne_nil hsecond,
        List.map_append, Outcome.all_append]
      rfl
    dsimp only
    refine ⟨?_, fun hlog => ?_, ?_⟩
    · rw [output_run, output_run, output_run, hall]
      rfl
    · rw [run_eq_allOf _ _ _ _ hlog, run_eq_allOf _ _ _ _ hlog, run_eq_allOf _ _ _ _ hlog, hall]
      rfl
    · rw [exitCode_run, exitCode_run, exitCode_run, hall, Ne, Outcome.exitCode_append_eq_zero_iff,
        not_and_or]
  · intro arguments messages hnone hoptions hempty hne hlines
    have hdelivered := Options.ofArguments_append_separator hnone hoptions messages
    rw [hempty, List.nil_append] at hdelivered
    refine ⟨hdelivered, fun input => ?_⟩
    have hall : allOf { o with messages := messages } environment input log =
        allOf o environment (unlines messages) log := by
      unfold allOf
      rw [allMessages_of_ne_nil hne, allMessages_unlines hempty hlines]
      rfl
    dsimp only
    refine ⟨?_, fun hlog => ?_, ?_⟩
    · rw [output_run, output_run, hall]
    · rw [run_eq_allOf _ _ _ _ hlog, run_eq_allOf _ _ _ _ hlog, hall]
    · rw [exitCode_run, exitCode_run, hall]

/-- A message that is read and one that is not, as arguments and as lines, and in two runs, with the
warnings that are logged by default. -/
theorem run_folds_messages_ping :
    let o : Options := { aliases := ["ping"], required := ["user"] }
    let arguments := ["--alias", "ping", "--arg=user"]
    let messages := ["/ping -user hm", "hello"]
    let delivered : Options := { o with messages := messages }
    let outcome := run delivered none "" .standard
    Filter.standard.Terse ∧ Options.ofArguments (arguments ++ "--" :: messages) = .ok delivered ∧
      outcome.diagnostics = (run o none "/ping -user hm\nhello\n" .standard).diagnostics ∧
      outcome.output = "/ping [user=\"hm\"] \"\"\n" ∧ outcome.exitCode = 1 ∧
      (∃ entries, delivered.Entries none "" entries ∧ (commandsOf entries).length = 1) ∧
      outcome.diagnostics =
        (run { o with messages := ["/ping -user hm"] } none "" .standard).diagnostics ++
          (run { o with messages := ["hello"] } none "" .standard).diagnostics := by
  intro o arguments messages delivered outcome
  have hlines : ∀ message ∈ messages, IsLine message := by decide +kernel
  have hoptions : Options.ofArguments arguments = .ok o := by decide +kernel
  have honeLine : delivered.OnOneLine none := Or.inr (by decide +kernel)
  have houtput : outcome.output = "/ping [user=\"hm\"] \"\"\n" := by decide +kernel
  obtain ⟨hfold, -, -⟩ := run_folds_messages delivered none .standard
  obtain ⟨entries, hentries, -, -, -, -, hcount⟩ := hfold ""
  obtain ⟨-, happend, hdelivery⟩ := run_folds_messages o none .standard
  obtain ⟨hdelivered, hsame⟩ :=
    hdelivery arguments messages (by decide) hoptions rfl (List.cons_ne_nil _ _) hlines
  refine ⟨Filter.terse_standard, hdelivered, (hsame "").2.1 Filter.terse_standard, houtput,
    by decide +kernel, ⟨entries, hentries, ?_⟩, ?_⟩
  · rw [← (hcount honeLine).2]
    show outcome.output.toList.count '\n' = 1
    rw [houtput]
    decide
  · exact (happend ["/ping -user hm"] ["hello"] (List.cons_ne_nil _ _) (List.cons_ne_nil _ _)
      "" "" "").2.1 Filter.terse_standard

/-- By default the report on a message that is not the command is not all that is written to the
standard error: the warning stands in front of it. It is all if the log is off. -/
theorem run_warns_by_default :
    let o : Options := { aliases := ["ping"], messages := ["hello"] }
    let e : ParseError := .unexpectedEnd 0 "pick(/ | $ | mention)"
    let outcome := run o none "" .standard
    Options.ofArguments ["--alias", "ping", "hello"] = .ok o ∧
      o.Entries none "" [("hello", .error e)] ∧
      outcome.diagnostics = [.logged (.rejected "hello" []), .report (e.report "hello")] ∧
      outcome.errors Event.line ≠ e.report "hello" ++ "\n" ∧
      (run o none "" .off).errors Event.line = e.report "hello" ++ "\n" := by
  intro o e outcome
  have hparse : ((o.signature none).parser.parseText "hello").map Reply.result =
      .ok (.error e) := by decide +kernel
  obtain ⟨⟨result, c, n⟩, hreply, rfl⟩ := exists_of_map_eq_ok hparse
  have hread : o.Reads none "hello" (.error e) := ⟨c, n, hreply⟩
  exact ⟨by decide +kernel, ⟨rfl, List.forall_mem_singleton.mpr hread⟩, by decide +kernel,
    by decide +kernel, by decide +kernel⟩

end Parlance.CommandLine
