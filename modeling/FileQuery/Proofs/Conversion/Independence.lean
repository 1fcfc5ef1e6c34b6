import FileQuery.Proofs.Conversion.Interleaving

/-!
# Independent conversions of a statement

A statement that converts comes to the same tree and the same report whatever the order in which
its conversions read and write, exactly when no two of its matches clash.
-/

namespace FileQuery

open Conversion (output outputName isFormat jobs inTurn)
open FileTree (namingFault)

theorem Conversion.mem_inTurn {path : Path} {files : List Path} :
    path ∈ inTurn files ↔ path ∈ files := by
  simp [inTurn]

variable {tree : FileTree} {root : Path} {statement : Statement} {plan : Plan}
  {format : MediaFormat} {found : List Path}

/-- The matches that a plan converts are files of its folder. -/
theorem Plan.workplace (accepted : Plan.ofStatement statement = .ok plan)
    (converts : plan.action = .convert format) (named : tree.Named)
    (finds : plan.findMatches tree root = .ok found)
    (unlinked : ∀ path ∈ jobs format found, ∀ target,
      tree.findLink (output format path) ≠ .ok (.link target)) :
    ∃ folder names, Workplace tree format (plan.folder root) folder names ∧
      jobs format found = names.map (plan.folder root).child ∧ found.Nodup := by
  have accepts := (ofStatement_eq_ok_iff statement plan).mp accepted
  obtain ⟨isFiles, _, reads⟩ := (suits_of_actionOf accepts.action).convert format converts
  have listed := MediaFormat.listed_of_ofText? reads
  obtain ⟨left, folder, stamps, entries, reaches, isFolder, among⟩ :=
    exists_of_findMatches named finds
  obtain ⟨names, areNames, distinct, same⟩ := names_of_findMatches named finds
  have jobs_names : jobs format found =
      (names.filter fun name => !isFormat format ((plan.folder root).child name)).map
        (plan.folder root).child := by
    rw [jobs, same, List.filter_map]
    rfl
  have member_found {name : String} (member : name ∈ names) :
      (plan.folder root).child name ∈ found := same ▸ List.mem_map_of_mem member
  refine ⟨folder, _, ⟨listed, ⟨left, reaches⟩, ⟨stamps, entries, isFolder⟩, ?_, ?_, ?_, ?_⟩,
    jobs_names, ?_⟩
  · intro name member
    exact areNames name (List.mem_filter.mp member).1
  · intro name member
    have member' := (List.mem_filter.mp member).1
    obtain ⟨other, node, isName, path, kind, at_place⟩ := among _ (member_found member')
    obtain rfl := Path.child_injective (areNames name member') isName path
    rw [isFiles] at kind
    cases node with
    | file => exact ⟨_, _, _, at_place⟩
    | folder | link => cases kind
  · intro name member
    simpa using (List.mem_filter.mp member).2
  · intro name member wellNamed target linked
    have isName := areNames name (List.mem_filter.mp member).1
    have isOutput := Conversion.isName_outputName listed isName
    have reaches' := reaches.within (plan.folder root).within_trimmed
    have leads := FileTree.resolve_child reaches' isOutput .keep (fun _ follows => by cases follows)
    rw [wellNamed, linked] at leads
    refine unlinked ((plan.folder root).child name) ?_ target ?_
    · rw [jobs_names]
      exact List.mem_map_of_mem member
    · rw [Conversion.output_child format _ isName, FileTree.findLink, FileTree.locate, leads]
      rfl
  · rw [same]
    refine distinct.map_on fun first member second member' path => ?_
    exact Path.child_injective (areNames first member) (areNames second member') path

namespace Statement

/-- Whether a statement that converts its matches comes to the same report and the same tree
    whatever the order in which the conversions read their inputs and write their outputs. -/
def Independent (statement : Statement) (root : Path) (tree : FileTree) (format : MediaFormat)
    (found : List Path) : Prop :=
  ∀ codec : Codec, codec.Steady → ∀ schedule ⊆ jobs format found,
    ((Fanout.start tree).run codec format schedule).Complete (jobs format found) →
    ∃ report final, statement.run root codec.converter tree = (.completed report, final) ∧
      ((Fanout.start tree).run codec format schedule).report format root found
        (.start .convert (some format.extension) root found) = report ∧
      final.Alike ((Fanout.start tree).run codec format schedule).tree

/-- A statement converts its matches one after another, which is one of the schedules. -/
theorem run_convert (accepted : Plan.ofStatement statement = .ok plan)
    (converts : plan.action = .convert format) (finds : plan.findMatches tree root = .ok found)
    (distinct : found.Nodup) (codec : Codec) :
    statement.run root codec.converter tree =
      (.completed (((Fanout.start tree).run codec format (inTurn (jobs format found))).report format
          root found (.start .convert (some format.extension) root found)),
        ((Fanout.start tree).run codec format (inTurn (jobs format found))).tree) := by
  have all := Fanout.convertAll_eq_run codec format (.start tree) root
    (.start .convert (some format.extension) root found) distinct (fun _ _ => rfl)
  have performs : plan.perform root codec.converter found tree =
      (.ok (((Fanout.start tree).run codec format (inTurn (jobs format found))).report format root
          found (.start .convert (some format.extension) root found)),
        ((Fanout.start tree).run codec format (inTurn (jobs format found))).tree) := by
    unfold Plan.perform
    rw [converts]
    change (match Conversion.convertAll codec.converter format root found _ tree with
      | (value, changed) => (Except.ok value, changed)) = _
    rw [show tree = (Fanout.start tree).tree from rfl, all]
    rfl
  unfold run
  rw [accepted]
  dsimp only
  rw [Plan.execute, Changes.bind_apply, Changes.look, finds]
  dsimp only
  rw [performs]

/-- Conversions of which no two clash are independent. -/
theorem independent_of_apart (accepted : Plan.ofStatement statement = .ok plan)
    (converts : plan.action = .convert format) (named : tree.Named)
    (finds : plan.findMatches tree root = .ok found)
    (unlinked : ∀ path ∈ jobs format found, ∀ target,
      tree.findLink (output format path) ≠ .ok (.link target))
    (apart : ∀ first ∈ jobs format found, ∀ second ∈ jobs format found,
      ¬ Fanout.Clash tree format first second) :
    statement.Independent root tree format found := by
  obtain ⟨folder, names, work, jobs_names, distinct⟩ :=
    Plan.workplace accepted converts named finds unlinked
  intro codec steady schedule among complete
  have sound := Fanout.sound_start codec tree format (plan.folder root) folder names
  have among' : schedule ⊆ names.map (plan.folder root).child := jobs_names ▸ among
  have inTurn_among : inTurn (jobs format found) ⊆ names.map (plan.folder root).child := by
    intro path member
    rw [← jobs_names]
    exact Conversion.mem_inTurn.mp member
  obtain ⟨log, scheduled⟩ := sound.run work among'
  obtain ⟨log', oneByOne⟩ := sound.run work inTurn_among
  have complete' := Fanout.complete_inTurn codec format (.start tree) (jobs format found)
  rw [jobs_names] at complete apart
  have complete'' : ((Fanout.start tree).run codec format (inTurn (jobs format found))).Complete
      (names.map (plan.folder root).child) := jobs_names ▸ complete'
  refine ⟨_, _, run_convert accepted converts finds distinct codec, ?_, ?_⟩
  · refine Fanout.report_congr fun path member => ?_
    rw [jobs_names] at member
    obtain ⟨name, listed, rfl⟩ := List.mem_map.mp member
    rw [scheduled.progress_eq complete listed, oneByOne.progress_eq complete'' listed]
  · refine oneByOne.alike scheduled work steady complete'' complete fun first member second => ?_
    intro member'
    exact apart _ (List.mem_map_of_mem member) _ (List.mem_map_of_mem member')

/-- Whatever conversions come first, a run of them and then of all others is a schedule. -/
theorem Independent.exists_alike (independent : statement.Independent root tree format found)
    {codec : Codec} (steady : codec.Steady) {front : List Path}
    (among : front ⊆ jobs format found) :
    ∃ report final, statement.run root codec.converter tree = (.completed report, final) ∧
      final.Alike ((Fanout.start tree).run codec format
        (inTurn (front ++ jobs format found))).tree := by
  have all := Fanout.complete_inTurn codec format (.start tree) (front ++ jobs format found)
  have complete : ((Fanout.start tree).run codec format
      (inTurn (front ++ jobs format found))).Complete (jobs format found) := by
    intro path listed
    exact all path (List.mem_append_right _ listed)
  have inJobs : inTurn (front ++ jobs format found) ⊆ jobs format found := by
    intro path listed
    rcases List.mem_append.mp (Conversion.mem_inTurn.mp listed) with inFront | inJobs
    · exact among inFront
    · exact inJobs
  obtain ⟨report, final, ran, -, alike⟩ := independent codec steady _ inJobs complete
  exact ⟨report, final, ran, alike⟩

/-- Conversions of which two clash are not independent: of two schedules in which one of the two
    comes after the other, each comes to another tree. -/
theorem apart_of_independent (accepted : Plan.ofStatement statement = .ok plan)
    (converts : plan.action = .convert format) (named : tree.Named)
    (finds : plan.findMatches tree root = .ok found)
    (unlinked : ∀ path ∈ jobs format found, ∀ target,
      tree.findLink (output format path) ≠ .ok (.link target))
    (independent : statement.Independent root tree format found) :
    ∀ first ∈ jobs format found, ∀ second ∈ jobs format found,
      ¬ Fanout.Clash tree format first second := by
  obtain ⟨folder, names, work, jobs_names, -⟩ :=
    Plan.workplace accepted converts named finds unlinked
  rintro first member second member' ⟨oneOutput, ⟨bytes, bytes', reads, reads', differ⟩, writable⟩
  -- the codec converts these two only, so the one that is listed second writes last
  have steady := Codec.steady_only [first, second]
  have both : first ∈ jobs format found ∧ second ∈ jobs format found := ⟨member, member'⟩
  have inOrder : [first, second] ⊆ jobs format found := by simp [both]
  have reversed : [second, first] ⊆ jobs format found := by simp [both]
  obtain ⟨_, tree₁, ran, alike⟩ := independent.exists_alike steady inOrder
  obtain ⟨_, tree₂, ran', alike'⟩ := independent.exists_alike steady reversed
  obtain rfl := (Prod.mk.inj (ran.symm.trans ran')).2
  rw [jobs_names] at member member' alike alike'
  obtain ⟨name, listed, rfl⟩ := List.mem_map.mp member
  obtain ⟨name', listed', rfl⟩ := List.mem_map.mp member'
  have oneName := (work.output_eq_iff listed listed').mp oneOutput
  have fits := (work.exists_write_iff listed []).mp writable
  rw [oneName] at fits
  have last := Fanout.shell?_last work listed listed' reads reads' differ oneName fits
    [(plan.folder root).child name, (plan.folder root).child name'] (by simp)
  have last' := Fanout.shell?_last work listed' listed reads' reads (Ne.symm differ) oneName.symm
    (oneName ▸ fits) [(plan.folder root).child name, (plan.folder root).child name']
    (by simp [or_comm])
  have shown := alike.shells (folder ++ [outputName format name'])
  have shown' := alike'.shells (folder ++ [outputName format name])
  rw [oneName] at last' shown'
  refine differ (FileTree.written?_injective (Option.or_eq_none_iff.mp fits).2 ?_)
  exact (last'.symm.trans shown').trans (shown.symm.trans last)

/-- Where no output is a link, the conversions of an accepted statement are independent exactly when
    no two of its matches with different bytes are converted to one file. -/
theorem conversions_independent_iff (accepted : Plan.ofStatement statement = .ok plan)
    (converts : plan.action = .convert format) (named : tree.Named)
    (finds : plan.findMatches tree root = .ok found)
    (unlinked : ∀ path ∈ jobs format found, ∀ target,
      tree.findLink (output format path) ≠ .ok (.link target)) :
    statement.Independent root tree format found ↔
      ∀ first ∈ jobs format found, ∀ second ∈ jobs format found,
        ¬ Fanout.Clash tree format first second :=
  ⟨apart_of_independent accepted converts named finds unlinked,
    independent_of_apart accepted converts named finds unlinked⟩

end Statement

/-! ### A tree with two files -/

/-- A tree with two files in a folder, whose names are the same up to the dot. -/
def FileTree.twoFiles (first second : List UInt8) : FileTree :=
  ⟨.folder (.ofInstant .epoch) [("a", .folder (.ofInstant .epoch)
    [("x.wav", .file (.ofInstant .epoch) false first),
      ("x.flac", .file (.ofInstant .epoch) false second)])], [], .epoch⟩

namespace FileTree

variable (first second : List UInt8)

theorem plain_twoFiles : (twoFiles first second).Plain := by
  have isName (name : String) (text : name = "a" ∨ name = "x.wav" ∨ name = "x.flac") :
      IsName name := by
    rcases text with rfl | rfl | rfl <;> constructor <;> decide
  refine ⟨Node.plain_folder ?_ ?_, by simp [twoFiles]⟩
  · simp [Node.Tidy, isName "a" (.inl rfl)]
  · refine List.forall_mem_singleton.mpr (Node.plain_folder ?_ ?_)
    · simp [Node.Tidy, isName "x.wav" (.inr (.inl rfl)), isName "x.flac" (.inr (.inr rfl))]
    · intro entry listed
      rcases List.mem_pair.mp listed with rfl | rfl <;> exact Node.plain_file _ _ _

/-- Paths to the folder, to the files and to what they are converted to. -/
theorem resolve_twoFiles (last : LastLink) :
    (twoFiles first second).resolve last ⟨"/a"⟩ =
      .ok ⟨["a"], (twoFiles first second).get? ["a"], false⟩ ∧
    (twoFiles first second).resolve last ⟨"/a/x.wav"⟩ =
      .ok ⟨["a", "x.wav"], (twoFiles first second).get? ["a", "x.wav"], false⟩ ∧
    (twoFiles first second).resolve last ⟨"/a/x.flac"⟩ =
      .ok ⟨["a", "x.flac"], (twoFiles first second).get? ["a", "x.flac"], false⟩ ∧
    (twoFiles first second).resolve last ⟨"/a/x.mp3"⟩ =
      .ok ⟨["a", "x.mp3"], none, false⟩ := by
  simp [twoFiles, resolve, checkPath, pathLimit, names, Path.segments, descend, start,
    Path.isAbsolute, get?, Node.get?, nameLimit, Text.byteLength, Char.utf8Size, List.lookup_cons]

/-- Both files are matches. -/
theorem findMatches_twoFiles (action : Action) :
    (Plan.ofOneFile action).findMatches (twoFiles first second) ⟨"/"⟩ =
      .ok [⟨"/a/x.wav"⟩, ⟨"/a/x.flac"⟩] := by
  obtain ⟨leads, -⟩ := resolve_twoFiles first second .follow
  have found : (twoFiles first second).find ⟨"/a"⟩ =
      .ok (.folder (.ofInstant .epoch) [("x.wav", .file (.ofInstant .epoch) false first),
        ("x.flac", .file (.ofInstant .epoch) false second)]) := by
    rw [find, locate, leads]
    rfl
  unfold Plan.findMatches
  dsimp only
  rw [Plan.folder_ofOneFile, found]
  rfl

/-- Both files are converted. -/
theorem jobs_twoFiles : jobs ⟨"mp3", .audio⟩ [⟨"/a/x.wav"⟩, ⟨"/a/x.flac"⟩] =
    [⟨"/a/x.wav"⟩, ⟨"/a/x.flac"⟩] := by
  decide

/-- No plain tree has a link. -/
theorem Plain.findLink_ne_link {tree : FileTree} (plain : tree.Plain) (path : Path)
    (target : String) : tree.findLink path ≠ .ok (.link target) := by
  intro found
  exact plain.unlinked _ target (plain.get?_of_locate found)

theorem read_twoFiles : (twoFiles first second).read ⟨"/a/x.wav"⟩ = .ok first ∧
    (twoFiles first second).read ⟨"/a/x.flac"⟩ = .ok second := by
  obtain ⟨-, wav, flac, -⟩ := resolve_twoFiles first second .follow
  constructor
  · rw [read, find, locate, wav]
    rfl
  · rw [read, find, locate, flac]
    rfl

/-- The files clash if they hold different bytes. -/
theorem clash_twoFiles_iff : Fanout.Clash (twoFiles first second) ⟨"mp3", .audio⟩ ⟨"/a/x.wav"⟩
    ⟨"/a/x.flac"⟩ ↔ first ≠ second := by
  obtain ⟨reads, reads'⟩ := read_twoFiles first second
  obtain ⟨-, -, -, mp3⟩ := resolve_twoFiles first second .follow
  have oneOutput : output ⟨"mp3", .audio⟩ ⟨"/a/x.wav"⟩ = ⟨"/a/x.mp3"⟩ ∧
      output ⟨"mp3", .audio⟩ ⟨"/a/x.flac"⟩ = ⟨"/a/x.mp3"⟩ := by decide
  constructor
  · rintro ⟨-, ⟨bytes, bytes', found, found', differ⟩, -⟩
    rw [reads] at found
    rw [reads'] at found'
    rwa [Except.ok.inj found, Except.ok.inj found']
  · intro differ
    refine ⟨oneOutput.1.trans oneOutput.2.symm, ⟨first, second, reads, reads', differ⟩, ?_⟩
    rw [oneOutput.1, write, truncate, mp3]
    exact ⟨_, rfl⟩

end FileTree

namespace Statement

/-- Files with the same bytes are converted to one file independently. -/
theorem conversions_independent_twoFiles :
    Plan.ofStatement (.convert ⟨"files", "a", none⟩ "mp3") =
      .ok (.ofOneFile (.convert ⟨"mp3", .audio⟩)) ∧
    (FileTree.twoFiles [0] [0]).Named ∧
    (Plan.ofOneFile (.convert ⟨"mp3", .audio⟩)).findMatches (.twoFiles [0] [0]) ⟨"/"⟩ =
      .ok [⟨"/a/x.wav"⟩, ⟨"/a/x.flac"⟩] ∧
    (∀ path ∈ jobs ⟨"mp3", .audio⟩ [⟨"/a/x.wav"⟩, ⟨"/a/x.flac"⟩], ∀ target,
      (FileTree.twoFiles [0] [0]).findLink (output ⟨"mp3", .audio⟩ path) ≠ .ok (.link target)) ∧
    (Statement.convert ⟨"files", "a", none⟩ "mp3").Independent ⟨"/"⟩ (.twoFiles [0] [0])
      ⟨"mp3", .audio⟩ [⟨"/a/x.wav"⟩, ⟨"/a/x.flac"⟩] := by
  have accepted : Plan.ofStatement (.convert ⟨"files", "a", none⟩ "mp3") =
      .ok (.ofOneFile (.convert ⟨"mp3", .audio⟩)) := rfl
  have plain := FileTree.plain_twoFiles [0] [0]
  have finds := FileTree.findMatches_twoFiles [0] [0] (.convert ⟨"mp3", .audio⟩)
  have unlinked (path : Path) (_ : path ∈ jobs ⟨"mp3", .audio⟩ [⟨"/a/x.wav"⟩, ⟨"/a/x.flac"⟩])
      (target : String) :
      (FileTree.twoFiles [0] [0]).findLink (output ⟨"mp3", .audio⟩ path) ≠ .ok (.link target) :=
    plain.findLink_ne_link _ _
  refine ⟨accepted, plain.named, finds, unlinked,
    (conversions_independent_iff accepted rfl plain.named finds unlinked).mpr ?_⟩
  have reads (path : Path) (member : path ∈ jobs ⟨"mp3", .audio⟩ [⟨"/a/x.wav"⟩, ⟨"/a/x.flac"⟩]) :
      (FileTree.twoFiles [0] [0]).read path = .ok [0] := by
    rw [FileTree.jobs_twoFiles] at member
    obtain ⟨wav, flac⟩ := FileTree.read_twoFiles [0] [0]
    rcases List.mem_pair.mp member with rfl | rfl
    · exact wav
    · exact flac
  rintro first member second member' ⟨-, ⟨bytes, bytes', found, found', differ⟩, -⟩
  rw [reads first member] at found
  rw [reads second member'] at found'
  exact differ ((Except.ok.inj found).symm.trans (Except.ok.inj found'))

/-- Not all conversions of a statement are independent: two files whose names differ only in their
    extensions are converted to one file. -/
theorem not_forall_independent :
    ¬ ∀ statement plan format tree root found, Plan.ofStatement statement = .ok plan →
      plan.action = .convert format → tree.Named → plan.findMatches tree root = .ok found →
      statement.Independent root tree format found := by
  intro independent
  have accepted : Plan.ofStatement (.convert ⟨"files", "a", none⟩ "mp3") =
      .ok (.ofOneFile (.convert ⟨"mp3", .audio⟩)) := rfl
  have plain := FileTree.plain_twoFiles [0] [1]
  have finds := FileTree.findMatches_twoFiles [0] [1] (.convert ⟨"mp3", .audio⟩)
  have apart := apart_of_independent accepted rfl plain.named finds
    (fun _ _ _ => plain.findLink_ne_link _ _)
    (independent _ _ ⟨"mp3", .audio⟩ _ _ _ accepted rfl plain.named finds)
  rw [FileTree.jobs_twoFiles] at apart
  refine apart ⟨"/a/x.wav"⟩ (by simp) ⟨"/a/x.flac"⟩ (by simp) ?_
  exact (FileTree.clash_twoFiles_iff [0] [1]).mpr (by decide)

end Statement

end FileQuery
