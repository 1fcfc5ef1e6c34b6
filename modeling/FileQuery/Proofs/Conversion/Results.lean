import Mathlib.Data.List.TakeWhile
import FileQuery.Proofs.Confinement.Actions
import FileQuery.Proofs.Conversion.Independence
import FileQuery.Proofs.Execution.Untouched

/-!
# Each conversion on its own

To convert matches is to call the converter once for each match that has not the format already, and
to report each result at its input. The results go with the inputs by their positions, so a result
shows at one input and nowhere else in the report. No call asks for its own input to be overwritten:
the output's extension is what is behind its last dot, and the name of an input that is cut at its
first dot has another one, or none.
-/

namespace FileQuery

open Conversion (output outputName isFormat jobs)

variable {format : MediaFormat} {root base path : Path} {found rest files : List Path}
  {tree after : FileTree} {report : Report} {converter : Converter} {name : String}
  {results : List (Except ConversionError Unit)} {result : Except ConversionError Unit}

namespace Conversion

/-! ## Calls -/

/-- What the converter is asked for: a file of a kind, made of another one. -/
structure Call where
  input : Path
  output : Path
  kind : MediaKind
  deriving DecidableEq, Repr

/-- The calls for matches, one for each that is converted. -/
def calls (format : MediaFormat) (found : List Path) : List Call :=
  (jobs format found).map fun path => ⟨path, output format path, format.kind⟩

/-- What a converter answers to calls, one after another. -/
def answers (converter : Converter) :
    List Call → StateM FileTree (List (Except ConversionError Unit))
  | [] => pure []
  | call :: rest => do
    let result ← (converter call.input call.output call.kind).run
    return result :: (← answers converter rest)

theorem calls_cons_skipped (skipped : isFormat format path = true) (rest : List Path) :
    calls format (path :: rest) = calls format rest := by
  simp [calls, jobs, skipped]

theorem calls_cons (converted : isFormat format path = false) (rest : List Path) :
    calls format (path :: rest) = ⟨path, output format path, format.kind⟩ :: calls format rest := by
  simp [calls, jobs, converted]

theorem answers_cons (converter : Converter) (call : Call) (rest : List Call) (tree : FileTree) :
    answers converter (call :: rest) tree =
      ((converter call.input call.output call.kind tree).1 ::
          (answers converter rest (converter call.input call.output call.kind tree).2).1,
        (answers converter rest (converter call.input call.output call.kind tree).2).2) := rfl

theorem length_answers (converter : Converter) (asked : List Call) (tree : FileTree) :
    (answers converter asked tree).1.length = asked.length := by
  induction asked generalizing tree with
  | nil => rfl
  | cons call rest inductionHypothesis =>
    exact congrArg (· + 1)
      (inductionHypothesis (converter call.input call.output call.kind tree).2)

/-- What is reported as failed of a call with a result. -/
def failure? (root : Path) : Call × Except ConversionError Unit → Option PathFailure
  | (_, .ok ()) => none
  | (call, .error error) => some ⟨call.input.relativeTo root, error.message⟩

end Conversion

open Conversion (Call calls answers failure?)

/-- A report with the results for matches that are converted. -/
def Report.converting (report : Report) (format : MediaFormat) (root : Path) (found : List Path)
    (results : List (Except ConversionError Unit)) : Report :=
  { report with
    processed := report.processed + results.countP Except.isOk
    skipped := report.skipped ++ (found.filter (isFormat format)).map (·.relativeTo root)
    failures := report.failures ++ ((calls format found).zip results).filterMap (failure? root) }

namespace Report

theorem converting_skip (skipped : isFormat format path = true) :
    (report.skip root path).converting format root rest results =
      report.converting format root (path :: rest) results := by
  simp [converting, skip, skipped, Conversion.calls_cons_skipped]

theorem converting_succeed (converted : isFormat format path = false) :
    report.succeed.converting format root rest results =
      report.converting format root (path :: rest) (.ok () :: results) := by
  have counted : (Except.ok () :: results).countP Except.isOk = results.countP Except.isOk + 1 :=
    List.countP_cons_of_pos rfl
  simp [converting, succeed, converted, Conversion.calls_cons, failure?, counted, Nat.add_assoc,
    Nat.add_comm 1, List.filterMap_cons]

theorem converting_fail (converted : isFormat format path = false) (error : ConversionError) :
    (report.fail root path error.message).converting format root rest results =
      report.converting format root (path :: rest) (.error error :: results) := by
  have counted : (Except.error error :: results).countP Except.isOk =
      results.countP Except.isOk := List.countP_cons_of_neg (by simp [Except.isOk, Except.toBool])
  simp [converting, fail, converted, Conversion.calls_cons, failure?, counted]

end Report

/-- To convert matches is to make the calls for them, each once, and to report the results. -/
theorem Conversion.convertAll_eq (converter : Converter) (format : MediaFormat) (root : Path)
    (found : List Path) (report : Report) (tree : FileTree) :
    convertAll converter format root found report tree =
      (report.converting format root found (answers converter (calls format found) tree).1,
        (answers converter (calls format found) tree).2) := by
  induction found generalizing report tree with
  | nil =>
    rw [convertAll, Report.converting]
    simp only [calls, jobs, answers, List.filter_nil, List.map_nil, List.zip_nil_left,
      List.filterMap_nil, List.append_nil]
    rfl
  | cons path rest inductionHypothesis =>
    rw [convertAll]
    dsimp only
    cases has : isFormat format path with
    | true =>
      rw [if_pos rfl, inductionHypothesis, Report.converting_skip has, calls_cons_skipped has]
    | false =>
      rw [if_neg (by decide), calls_cons has, answers_cons]
      dsimp only
      rcases converter path (output format path) format.kind tree with ⟨error | _, changed⟩
      · dsimp only
        rw [inductionHypothesis, Report.converting_fail has]
      · dsimp only
        rw [inductionHypothesis, Report.converting_succeed has]

/-! ## Conversions at the same time -/

/-- However the conversions take turns, what they come to is reported at the inputs. -/
theorem Fanout.report_eq {state : Fanout} (report : Report)
    (complete : state.Complete (jobs format found)) :
    ∃ results, List.Forall₂ (fun call result => state.progress call.input = .finished result)
        (calls format found) results ∧
      state.report format root found report = report.converting format root found results := by
  induction found generalizing report with
  | nil => exact ⟨[], .nil, by simp [Fanout.report, Report.converting, calls, jobs]⟩
  | cons path rest inductionHypothesis =>
    rw [Fanout.report]
    cases has : isFormat format path with
    | true =>
      rw [jobs, List.filter_cons_of_neg (by simp [has])] at complete
      obtain ⟨results, finished, same⟩ :=
        inductionHypothesis (report.skip root path) complete
      rw [if_pos rfl, Conversion.calls_cons_skipped has]
      exact ⟨results, finished, same.trans (Report.converting_skip has)⟩
    | false =>
      rw [jobs, List.filter_cons_of_pos (by simp [has])] at complete
      obtain ⟨⟨result, first⟩, others⟩ := List.forall_mem_cons.mp complete
      rw [if_neg (by decide), Conversion.calls_cons has, first]
      cases result with
      | error error =>
        obtain ⟨results, finished, same⟩ :=
          inductionHypothesis (report.fail root path error.message) others
        exact ⟨.error error :: results, .cons first finished,
          same.trans (Report.converting_fail has error)⟩
      | ok value =>
        obtain ⟨results, finished, same⟩ := inductionHypothesis report.succeed others
        exact ⟨.ok () :: results, .cons first finished, same.trans (Report.converting_succeed has)⟩

/-! ## One result among others -/

/-- A report with the result of one more call, and failures that come behind it. -/
def Report.telling (report : Report) (root : Path) (call : Call)
    (result : Except ConversionError Unit) (behind : List PathFailure) : Report :=
  { report with
    processed := report.processed + [result].countP Except.isOk
    failures := report.failures ++ (failure? root (call, result)).toList ++ behind }

/-- The result of a call shows where the call is reported. What is reported of the others is the
    same for every result. -/
theorem Report.exists_telling (report : Report) (root : Path) {index : Nat} {call : Call}
    (asked : (calls format found)[index]? = some call)
    (answered : results.length = (calls format found).length) :
    ∃ others behind, ∀ result, report.converting format root found (results.set index result) =
      Report.telling others root call result behind := by
  obtain ⟨within, rfl⟩ := List.getElem?_eq_some_iff.mp asked
  have within' : index < results.length := answered ▸ within
  -- the results and the calls are cut at the index, and go together on each side of it
  have cut : calls format found = (calls format found).take index ++
      (calls format found)[index] :: (calls format found).drop (index + 1) := by
    rw [List.getElem_cons_drop, List.take_append_drop]
  have cutSame : ((calls format found).take index).length = (results.take index).length := by
    rw [List.length_take, List.length_take, answered]
  have paired (result : Except ConversionError Unit) :
      (calls format found).zip (results.set index result) =
        ((calls format found).take index).zip (results.take index) ++
          ((calls format found)[index], result) ::
            ((calls format found).drop (index + 1)).zip (results.drop (index + 1)) := by
    rw [List.set_eq_take_append_cons_drop, if_pos within']
    conv_lhs => rw [cut]
    rw [List.zip_append cutSame, List.zip_cons_cons]
  refine ⟨{ report with
      processed := report.processed +
        ((results.take index).countP Except.isOk + (results.drop (index + 1)).countP Except.isOk)
      skipped := report.skipped ++ (found.filter (isFormat format)).map (·.relativeTo root)
      failures := report.failures ++
        (((calls format found).take index).zip (results.take index)).filterMap (failure? root) },
    (((calls format found).drop (index + 1)).zip (results.drop (index + 1))).filterMap
      (failure? root), fun result => ?_⟩
  have counted : (results.set index result).countP Except.isOk =
      (results.take index).countP Except.isOk + (results.drop (index + 1)).countP Except.isOk +
        [result].countP Except.isOk := by
    rw [List.set_eq_take_append_cons_drop, if_pos within', List.countP_append,
      ← List.singleton_append, List.countP_append]
    omega
  have failed : ((calls format found).zip (results.set index result)).filterMap (failure? root) =
      (((calls format found).take index).zip (results.take index)).filterMap (failure? root) ++
        (failure? root ((calls format found)[index], result)).toList ++
          (((calls format found).drop (index + 1)).zip
            (results.drop (index + 1))).filterMap (failure? root) := by
    rw [paired, List.filterMap_append, List.filterMap_cons, List.append_assoc]
    cases failure? root ((calls format found)[index], result) <;> rfl
  simp only [Report.converting, Report.telling, counted, failed, List.append_assoc,
    Nat.add_assoc]

/-! ## Outputs and skipped matches -/

namespace Conversion

theorem lowered_eq_iff {first second : String} :
    lowered first = lowered second ↔ first.toLower = second.toLower := by
  have letters (text : String) : text.toLower.toList = text.toList.map Char.toLower :=
    String.toList_map
  rw [lowered, lowered, ← String.toList_inj, letters, letters]

/-- A match has a format already if its extension is that of the format, in any case. -/
theorem isFormat_iff : isFormat format path = true ↔
    ∃ extension, path.extension? = some extension ∧
      extension.toLower = format.extension.toLower := by
  unfold isFormat
  cases path.extension? with
  | none => simp
  | some extension => simp [lowered_eq_iff]

/-- The name of what a file is converted to starts with the file's name up to its first dot, or with
    all of it if nothing is before that dot. -/
theorem exists_before_dot (format : MediaFormat) (name : String) :
    ∃ before rest, name.toList = before ++ rest ∧ '.' ∉ before ∧
      (rest = [] ∨ rest.head? = some '.') ∧ outputName format name =
        (if before = [] then name else String.ofList before) ++ "." ++ format.extension := by
  refine ⟨name.toList.takeWhile (· ≠ '.'), name.toList.dropWhile (· ≠ '.'),
    List.takeWhile_append_dropWhile.symm, fun dot => ?_, ?_, rfl⟩
  · simpa using List.mem_takeWhile_imp dot
  · cases behind : name.toList.dropWhile (· ≠ '.') with
    | nil => exact .inl rfl
    | cons c rest =>
      have stops := List.head?_dropWhile_not (fun c : Char => decide (c ≠ '.')) name.toList
      rw [behind] at stops
      exact .inr (by simpa using stops)

/-- A call for an entry of a folder asks for a file of the format's kind in the same folder, named
    by what stands before the first dot of the entry's name. It does not ask for the entry itself to
    be overwritten. -/
structure Call.Aims (format : MediaFormat) (call : Call) : Prop where
  kind : call.kind = format.kind
  output : ∃ (base : Path) (name : String) (before rest : List Char), IsName name ∧
    call.input = base.child name ∧ name.toList = before ++ rest ∧ '.' ∉ before ∧
      (rest = [] ∨ rest.head? = some '.') ∧ base.Within call.output
        [(if before = [] then name else String.ofList before) ++ "." ++ format.extension]
  apart : call.output.same call.input = false

theorem aims_of_mem_calls (listed : format.Listed)
    (entries : ∀ path ∈ found, ∃ base, path.IsEntryOf base) :
    ∀ call ∈ calls format found, call.Aims format := by
  intro call isCall
  obtain ⟨path, isJob, rfl⟩ := List.mem_map.mp isCall
  obtain ⟨member, converted⟩ := List.mem_filter.mp isJob
  obtain ⟨base, name, isName, rfl⟩ := entries path member
  obtain ⟨before, rest, split, undotted, stops, named⟩ := exists_before_dot format name
  have within : base.Within (output format (base.child name)) [outputName format name] := by
    rw [output_child format base isName]
    simpa using base.within_trimmed.child (isName_outputName listed isName)
  refine ⟨rfl, ⟨base, name, before, rest, isName, rfl, split, undotted, stops, named ▸ within⟩, ?_⟩
  have differs := ne_outputName listed isName (by simpa using converted)
  have input : base.Within (base.child name) [name] := (Path.Within.refl base).child isName
  by_contra same
  have taken := (Path.same_iff.mp (Bool.of_not_eq_false same)).2.2
  rw [within.steps, input.steps] at taken
  exact differs (List.singleton_inj.mp (List.append_cancel_left taken)).symm

end Conversion

/-! ## The statement -/

/-- The inputs of the calls are the matches that are not skipped, each once. -/
theorem Conversion.map_input_calls (format : MediaFormat) (found : List Path) :
    (calls format found).map Call.input = found.filter (!isFormat format ·) := by
  simp [calls, jobs, Function.comp_def]

/-- A format that statements are accepted with is listed. -/
theorem Plan.listed_of_ofStatement {statement : Statement} {plan : Plan}
    (accepted : Plan.ofStatement statement = .ok plan) (converts : plan.action = .convert format) :
    format.Listed := by
  have action := ((Plan.ofStatement_eq_ok_iff statement plan).mp accepted).action
  obtain ⟨_, _, reads⟩ := (suits_of_actionOf action).convert format converts
  exact MediaFormat.listed_of_ofText? reads

/-- CONVERT accounts for each match on its own. It completes for all matches, whatever the converter
    does: those that have the extension of the format in any case are skipped, and the converter is
    called once for each of the others, in the order of the listing, for an output that is not the
    input. The failures are those of the calls that failed, in this order and with their errors, and
    the calls that did not fail are counted. If the conversions run at the same time, their results
    are reported as if each had been called in its turn; and another result for one call changes
    what is reported of it, and nothing else. -/
theorem Statement.conversions_accounted {statement : Statement} {plan : Plan}
    (accepted : Plan.ofStatement statement = .ok plan) (converts : plan.action = .convert format)
    (root : Path) (entries : ∀ path ∈ found, ∃ base, path.IsEntryOf base) :
    let start := Report.start .convert (some format.extension) root found
    (∀ converter tree, ∃ results after,
      answers converter (calls format found) tree = (results, after) ∧
      results.length = (calls format found).length ∧
      plan.perform root converter found tree =
        (.ok (start.converting format root found results), after) ∧
      (plan.findMatches tree root = .ok found → statement.run root converter tree =
        (.completed (start.converting format root found results), after))) ∧
    (calls format found).map Call.input = found.filter (!isFormat format ·) ∧
    (∀ path, isFormat format path = true ↔ ∃ extension, path.extension? = some extension ∧
      extension.toLower = format.extension.toLower) ∧
    (∀ call ∈ calls format found, call.Aims format) ∧
    (∀ state : Fanout, state.Complete (jobs format found) → ∃ results,
      List.Forall₂ (fun call result => state.progress call.input = .finished result)
        (calls format found) results ∧
      state.report format root found start = start.converting format root found results) ∧
    (∀ (results : List (Except ConversionError Unit)) (index : Nat) (call : Call),
      results.length = (calls format found).length → (calls format found)[index]? = some call →
        ∃ others behind, ∀ result, start.converting format root found (results.set index result) =
          Report.telling others root call result behind) := by
  refine ⟨fun converter tree => ?_, Conversion.map_input_calls format found,
    fun path => Conversion.isFormat_iff,
    Conversion.aims_of_mem_calls (Plan.listed_of_ofStatement accepted converts) entries,
    fun state complete => Fanout.report_eq _ complete,
    fun results index call answered asked => Report.exists_telling _ root asked answered⟩
  have performed : plan.perform root converter found tree =
      (.ok ((Report.start .convert (some format.extension) root found).converting format root found
        (answers converter (calls format found) tree).1),
          (answers converter (calls format found) tree).2) := by
    have converted := Conversion.convertAll_eq converter format root found
      (Report.start .convert (some format.extension) root found) tree
    unfold Plan.perform
    rw [converts]
    change (Except.ok (Conversion.convert converter root format found tree).1,
      (Conversion.convert converter root format found tree).2) = _
    rw [Conversion.convert, converted]
  exact ⟨_, _, rfl, Conversion.length_answers _ _ _, performed,
    fun finds => Plan.run_of_findMatches accepted finds performed⟩

/-- Of two files, a converter that does not take one of them converts the other. -/
theorem Statement.conversions_accounted_twoFiles :
    ∃ (converter : Converter) (after : FileTree),
      (Statement.convert ⟨"files", "a", none⟩ "mp3").run ⟨"/"⟩ converter (.twoFiles [0] [1]) =
        (.completed ⟨.convert, some "mp3", 2, [⟨"a/x.wav"⟩, ⟨"a/x.flac"⟩], 1, [],
          [⟨⟨"a/x.flac"⟩, "Conversion failed: no sound"⟩]⟩, after) ∧
      (∀ call ∈ calls ⟨"mp3", .audio⟩ [⟨"/a/x.wav"⟩, ⟨"/a/x.flac"⟩],
        call.Aims ⟨"mp3", .audio⟩) := by
  have accepted : Plan.ofStatement (.convert ⟨"files", "a", none⟩ "mp3") =
      .ok (.ofOneFile (.convert ⟨"mp3", .audio⟩)) := rfl
  have isName (name : String) (text : name = "x.wav" ∨ name = "x.flac") : IsName name := by
    rcases text with rfl | rfl <;> constructor <;> decide
  have entries : ∀ path ∈ [(⟨"/a/x.wav"⟩ : Path), ⟨"/a/x.flac"⟩], ∃ base, path.IsEntryOf base := by
    intro path member
    rcases List.mem_pair.mp member with rfl | rfl
    · exact ⟨⟨"/a"⟩, "x.wav", isName _ (.inl rfl), rfl⟩
    · exact ⟨⟨"/a"⟩, "x.flac", isName _ (.inr rfl), rfl⟩
  obtain ⟨runs, -, -, aims, -, -⟩ :=
    conversions_accounted accepted rfl ⟨"/"⟩ entries
  let converter : Converter := fun input _ _ =>
    if input = ⟨"/a/x.flac"⟩ then throw (.failed "no sound") else pure ()
  obtain ⟨results, after, answered, -, -, ends⟩ := runs converter (.twoFiles [0] [1])
  have finds := FileTree.findMatches_twoFiles [0] [1] (.convert ⟨"mp3", .audio⟩)
  refine ⟨converter, after, (ends finds).trans ?_, aims⟩
  obtain ⟨rfl, rfl⟩ := Prod.mk.inj answered
  rfl

end FileQuery
