import Mathlib.Data.List.Forall2
import Shading.CommandLine
import Shading.Proofs.Decode.Roots

/-!
Dumps of many files. All of them are decoded in one store, and yet each comes to what it comes to
alone: `alone` only looks at the contents of its file. `shown` and `complaint` are the texts that a
file leaves in the output and in the errors. So a dump prints what the dumps of its files would
print, one after the other, unless one of them faults. Main statement: `CommandLine.run_dump`.
-/

namespace Shading.CommandLine

variable {files : Files} {store : Store} {path : String} {paths : List String}

/-! ## One file -/

/-- Lines of text below one that says how many there are, and of what. -/
def counted (what : String) (texts : List String) : String :=
  s!"// {texts.length} {what}\n" ++ String.join (texts.map (· ++ "\n"))

/-- The text of a program: the symbols that its table owns, and then its elements. -/
def programText (program : Program) (store : Store) : String :=
  let symbols := (program.table?.map store.owned).getD []
  counted "symbols" (symbols.map fun symbol => s!"{symbol.kind}: {symbol.text}") ++
    counted "elements" (program.elements.map Element.text)

/-- The words after the number are put together first, as those of a listing are one text. -/
theorem counted_eq (what : String) (texts : List String) :
    counted what texts =
      "// " ++ toString texts.length ++ (" " ++ what ++ "\n") ++
        String.join (texts.map (· ++ "\n")) := by
  simp only [counted, toString, String.append_assoc]

theorem listing_eq_programText (program : Program) (store : Store) :
    program.listing store = programText program store := by
  rw [Program.listing, programText, counted_eq, counted_eq]
  simp only [List.map_map, List.length_map, Function.comp_def, toString, String.reduceAppend,
    String.append_assoc]

/-- What a blob comes to if it is the only one: its text, or what keeps it from being decoded. -/
def listing (bytes : Array UInt8) : Except Fault (Except HeaderFault String) :=
  match Program.ofBlob {} (Store.newRoot {}).2 (Store.newRoot {}).1 bytes with
  | .error fault => .error fault
  | .ok (.error header) => .ok (.error header)
  | .ok (.ok (program, after)) => .ok (.ok (programText program after.store))

theorem outcome_eq_listing (bytes : Array UInt8) :
    Program.outcome {} (Store.newRoot {}).2 (Store.newRoot {}).1 bytes = listing bytes := by
  rw [Program.outcome, listing]
  cases Program.ofBlob {} (Store.newRoot {}).2 (Store.newRoot {}).1 bytes with
  | error fault => rfl
  | ok known =>
    cases known with
    | error header => rfl
    | ok known => exact congrArg (Except.ok ∘ Except.ok) (listing_eq_programText ..)

/-- What the contents of a file come to if it is the only one: the listing, or the words that say
why there is none. -/
def alone (path : String) : Except FileFault (Array UInt8) → Except Fault (Except String String)
  | .error reason => .ok (.error s!"cannot read '{path}': {reason.message}")
  | .ok bytes =>
    match listing bytes with
    | .error fault => .error fault
    | .ok (.error header) => .ok (.error s!"'{path}' is not a usable blob: {header.message}")
    | .ok (.ok text) => .ok (.ok text)

/-- Contents on which the decoder faults. -/
def IsFaulty (path : String) (contents : Except FileFault (Array UInt8)) : Prop :=
  ∃ fault, alone path contents = .error fault

/-- Contents that cannot be read or have no usable header. -/
def IsRefused (path : String) (contents : Except FileFault (Array UInt8)) : Prop :=
  ∃ words, alone path contents = .ok (.error words)

/-- What a file adds to the output: a line with its path and then its listing, if there is one. -/
def shown (path : String) (contents : Except FileFault (Array UInt8)) : String :=
  match alone path contents with
  | .ok (.ok text) => s!"== {path}\n{text}"
  | _ => ""

/-- What a file adds to the errors: a line that says why there is no listing. -/
def complaint (path : String) (contents : Except FileFault (Array UInt8)) : String :=
  match alone path contents with
  | .ok (.error words) => s!"error: {words}\n"
  | _ => ""

/-- In a store that others were decoded in, a file comes to what it comes to alone, and the store
can be used again. -/
theorem dumpFile_cases (ready : store.Ready) (files : Files) (path : String) :
    (∃ result after, dumpFile {} files store path = .ok (result, after) ∧
        alone path (files path) = .ok result ∧ after.Ready) ∨
      ∃ fault, dumpFile {} files store path = .error fault ∧
        alone path (files path) = .error fault := by
  rw [dumpFile]
  cases files path with
  | error reason => exact .inl ⟨_, _, rfl, rfl, ready⟩
  | ok bytes =>
    have same : Program.outcome {} store.newRoot.2 store.newRoot.1 bytes = listing bytes :=
      (ready.outcome_newRoot {} bytes).trans (outcome_eq_listing bytes)
    rw [alone, ← same, Program.outcome]
    dsimp only
    cases decoded : Program.ofBlob {} store.newRoot.2 store.newRoot.1 bytes with
    | error fault => exact .inr ⟨fault, rfl, rfl⟩
    | ok known =>
      cases known with
      | error header => exact .inl ⟨_, _, rfl, rfl, ready.newRoot⟩
      | ok known =>
        obtain ⟨program, after⟩ := known
        have still := (ready.newRoot.decoded decoded).releaseAll program.elements
        exact .inl ⟨_, _, rfl, rfl, still⟩

/-! ## Many files -/

/-- Results that files come to alone, each in its place. -/
def Settled (files : Files) (paths : List String) (results : List (Except String String)) : Prop :=
  List.Forall₂ (fun path result => alone path (files path) = .ok result) paths results

theorem dumpFiles_cons {first : Except String String} {middle : Store}
    (ran : dumpFile {} files store path = .ok (first, middle)) (paths : List String) :
    dumpFiles {} files store (path :: paths) =
      (dumpFiles {} files middle paths).map fun others => (first :: others.1, others.2) := by
  rw [dumpFiles, ran]
  cases rest : dumpFiles {} files middle paths with
  | error fault =>
    show (dumpFiles {} files middle paths).bind _ = _
    rw [rest]
    rfl
  | ok others =>
    show (dumpFiles {} files middle paths).bind _ = _
    rw [rest]
    rfl

/-- What files come to, one after the other in a store that others were decoded in. -/
theorem dumpFiles_cases (ready : store.Ready) (files : Files) (paths : List String) :
    (∃ results after, dumpFiles {} files store paths = .ok (results, after) ∧
        Settled files paths results ∧ after.Ready) ∨
      (∃ fault, dumpFiles {} files store paths = .error fault) ∧
        ∃ path ∈ paths, IsFaulty path (files path) := by
  induction paths generalizing store with
  | nil => exact .inl ⟨[], store, rfl, .nil, ready⟩
  | cons path paths inductionHypothesis =>
    rcases dumpFile_cases ready files path with
      ⟨first, middle, ran, here, still⟩ | ⟨fault, ran, here⟩
    · rw [dumpFiles_cons ran]
      rcases inductionHypothesis still with
        ⟨others, after, ran', there, ended⟩ | ⟨⟨fault, ran'⟩, other, member, there⟩
      · rw [ran']
        exact .inl ⟨first :: others, after, rfl, .cons here there, ended⟩
      · rw [ran']
        exact .inr ⟨⟨fault, rfl⟩, other, List.mem_cons_of_mem _ member, there⟩
    · rw [dumpFiles, ran]
      exact .inr ⟨⟨fault, rfl⟩, path, List.mem_cons_self, fault, here⟩

section Parts

variable {results : List (Except String String)}

theorem not_isFaulty_of_settled (settled : Settled files paths results) :
    ∀ path ∈ paths, ¬IsFaulty path (files path) := by
  induction settled with
  | nil => exact nofun
  | cons here _ inductionHypothesis =>
    intro path member
    rcases List.mem_cons.mp member with first | later
    · rintro ⟨fault, faulted⟩
      rw [first, here] at faulted
      cases faulted
    · exact inductionHypothesis path later

theorem outputs_eq (settled : Settled files paths results) :
    List.zipWith outputPart paths results = paths.map fun path => shown path (files path) := by
  induction settled with
  | nil => rfl
  | @cons path result _ _ here _ inductionHypothesis =>
    rw [List.zipWith_cons_cons, inductionHypothesis, List.map_cons, shown, here]
    cases result with
    | error words => rfl
    | ok text => rfl

theorem errors_eq (settled : Settled files paths results) :
    results.map errorPart = paths.map fun path => complaint path (files path) := by
  induction settled with
  | nil => rfl
  | @cons path result _ _ here _ inductionHypothesis =>
    rw [List.map_cons, inductionHypothesis, List.map_cons, complaint, here]
    cases result with
    | error words => rfl
    | ok text => rfl

theorem all_listed_iff (settled : Settled files paths results) :
    (results.all fun result => result matches .ok _) = true ↔
      ∀ path ∈ paths, ¬IsRefused path (files path) := by
  induction settled with
  | nil => exact ⟨fun _ => nofun, fun _ => rfl⟩
  | @cons path result _ _ here _ inductionHypothesis =>
    rw [List.all_cons, Bool.and_eq_true, inductionHypothesis, List.forall_mem_cons]
    refine and_congr_left fun _ => ?_
    rw [IsRefused, here]
    cases result with
    | error words => exact ⟨nofun, fun listed => absurd ⟨words, rfl⟩ listed⟩
    | ok text => exact ⟨fun _ => nofun, fun _ => rfl⟩

end Parts

/-! ## Whole runs -/

/-- What a dump of some files comes to. -/
structure Dumped (files : Files) (paths : List String) (outcome : Outcome) : Prop where
  /-- The output has the listings below the paths, in the order of the arguments. -/
  output_eq : (∀ path ∈ paths, ¬IsFaulty path (files path)) →
    outcome.output = String.join (paths.map fun path => shown path (files path))
  /-- The errors have a line for each file without a listing, in that order too. -/
  errors_eq : (∀ path ∈ paths, ¬IsFaulty path (files path)) →
    outcome.errors = String.join (paths.map fun path => complaint path (files path))
  /-- The exit code is that of a failure if some file has no listing. -/
  code_eq : (∀ path ∈ paths, ¬IsFaulty path (files path)) →
    ((∃ path ∈ paths, IsRefused path (files path)) → outcome.code = 1) ∧
      ((∀ path ∈ paths, ¬IsRefused path (files path)) → outcome.code = 0)
  /-- A fault keeps everything from being printed. -/
  faulted : (∃ path ∈ paths, IsFaulty path (files path)) →
    outcome.output = "" ∧ outcome.code = 101

theorem dump_dumped (files : Files) (paths : List String) :
    Dumped files paths (dump {} files paths) := by
  rw [dump]
  rcases dumpFiles_cases .empty files paths with
    ⟨results, after, ran, settled, _⟩ | ⟨⟨fault, ran⟩, path, member, faulty⟩
  · rw [ran]
    have calm := not_isFaulty_of_settled settled
    refine ⟨fun _ => ?_, fun _ => ?_, fun _ => ⟨?_, ?_⟩, ?_⟩
    · exact congrArg String.join (outputs_eq settled)
    · exact congrArg String.join (CommandLine.errors_eq settled)
    · rintro ⟨path, member, refused⟩
      exact if_neg fun listed => (all_listed_iff settled).mp listed path member refused
    · intro listed
      exact if_pos ((all_listed_iff settled).mpr listed)
    · rintro ⟨path, member, faulty⟩
      exact absurd faulty (calm path member)
  · rw [ran]
    have never (calm : ∀ path ∈ paths, ¬IsFaulty path (files path)) : False :=
      calm path member faulty
    exact ⟨fun calm => (never calm).elim, fun calm => (never calm).elim,
      fun calm => (never calm).elim, fun _ => ⟨rfl, rfl⟩⟩

theorem run_dump_eq (files : Files) (nonempty : paths ≠ []) :
    run files ("dump" :: paths) = dump {} files paths := by
  cases paths with
  | nil => exact absurd rfl nonempty
  | cons path paths => rfl

theorem join_singleton (text : String) : String.join [text] = text :=
  String.empty_append

theorem run_dump_single {path : String} (calm : ¬IsFaulty path (files path)) :
    (run files ["dump", path]).output = shown path (files path) ∧
      (run files ["dump", path]).errors = complaint path (files path) := by
  have only : ∀ other ∈ [path], ¬IsFaulty other (files other) :=
    List.forall_mem_singleton.mpr calm
  have dumped : Dumped files [path] (run files ["dump", path]) := dump_dumped files [path]
  rw [dumped.output_eq only, dumped.errors_eq only]
  exact ⟨join_singleton _, join_singleton _⟩

/-- Files fault or come to what they come to alone, whatever other files were decoded in the store
before. -/
theorem dumpFiles_after {others : Files} {before : List String}
    {earlier : List (Except String String)}
    (ran : dumpFiles {} others {} before = .ok (earlier, store)) (files : Files)
    (order : List String) :
    ((∃ fault, dumpFiles {} files store order = .error fault) ↔
        ∃ path ∈ order, IsFaulty path (files path)) ∧
      ∀ results after, dumpFiles {} files store order = .ok (results, after) →
        Settled files order results := by
  have ready : store.Ready := by
    rcases dumpFiles_cases .empty others before with
      ⟨_, _, ran', _, still⟩ | ⟨⟨_, ran'⟩, _⟩
    · rw [ran] at ran'
      cases ran'
      exact still
    · rw [ran] at ran'
      cases ran'
  rcases dumpFiles_cases ready files order with
    ⟨results, after, ran', settled, _⟩ | ⟨⟨fault, ran'⟩, path, member, faulty⟩
  · rw [ran']
    refine ⟨⟨nofun, ?_⟩, ?_⟩
    · rintro ⟨path, member, faulty⟩
      exact absurd faulty (not_isFaulty_of_settled settled path member)
    · intro _ _ same
      cases same
      exact settled
  · rw [ran']
    exact ⟨⟨fun _ => ⟨path, member, faulty⟩, fun _ => ⟨fault, rfl⟩⟩, nofun⟩

/-- A dump of files is the dumps of each of them, one after the other. Nothing depends on the order
in which they are decoded, or on what was decoded in the same store before. -/
theorem run_dump (files : Files) (paths : List String) (nonempty : paths ≠ []) :
    Dumped files paths (run files ("dump" :: paths)) ∧
      ((∀ path ∈ paths, ¬IsFaulty path (files path)) →
        (run files ("dump" :: paths)).output =
            String.join (paths.map fun path => (run files ["dump", path]).output) ∧
          (run files ("dump" :: paths)).errors =
            String.join (paths.map fun path => (run files ["dump", path]).errors)) ∧
      ∀ others before earlier store, dumpFiles {} others {} before = .ok (earlier, store) →
        ∀ order,
          ((∃ fault, dumpFiles {} files store order = .error fault) ↔
            ∃ path ∈ order, IsFaulty path (files path)) ∧
          ∀ results after, dumpFiles {} files store order = .ok (results, after) →
            Settled files order results := by
  have dumped : Dumped files paths (run files ("dump" :: paths)) := by
    rw [run_dump_eq files nonempty]
    exact dump_dumped files paths
  refine ⟨dumped, fun calm => ⟨?_, ?_⟩, ?_⟩
  · rw [dumped.output_eq calm]
    refine congrArg String.join (List.map_congr_left fun path member => ?_)
    exact (run_dump_single (calm path member)).1.symm
  · rw [dumped.errors_eq calm]
    refine congrArg String.join (List.map_congr_left fun path member => ?_)
    exact (run_dump_single (calm path member)).2.symm
  · intro others before earlier store ran order
    exact dumpFiles_after ran files order

/-! ### Small dumps -/

/-- A blob with a struct, one that is cut off, one that is too short, and nothing else. -/
def sampleFiles : Files := fun path =>
  if path = "struct" then
    .ok #[12, 0, 1, 0, 1, 83, 1, 120, 3, 105, 110, 116,
      16, 1, 0, 10, 1, 0, 4, 0, 1, 3, 6, 0, 13, 2, 0, 8, 0, 0, 0, 17, 22, 11, 1, 0, 23]
  else if path = "cut" then .ok #[4, 0, 1, 0]
  else if path = "short" then .ok #[]
  else .error .missing

/-- A file may be listed twice, and what others lack only shows in the errors and the exit code. -/
theorem run_dump_sampleFiles :
    ["struct", "short", "none", "struct"] ≠ [] ∧ ["struct", "cut"] ≠ [] ∧
      (run sampleFiles ["dump", "struct", "short", "none", "struct"]).output =
        "== struct\n// 1 symbols\ntype: S\n// 1 elements\nstruct S \x7b\n    int x;\n\x7d;\n" ++
          "== struct\n// 1 symbols\ntype: S\n// 1 elements\nstruct S \x7b\n    int x;\n\x7d;\n" ∧
      (run sampleFiles ["dump", "struct", "short", "none", "struct"]).errors =
        "error: 'short' is not a usable blob: blob is 0 bytes, too short for a header\n" ++
          "error: cannot read 'none': No such file or directory (os error 2)\n" ∧
      (run sampleFiles ["dump", "struct", "short", "none", "struct"]).code = 1 ∧
      (run sampleFiles ["dump", "struct", "cut"]).output = "" ∧
      (run sampleFiles ["dump", "struct", "cut"]).code = 101 := by
  have dumped := (run_dump sampleFiles ["struct", "short", "none", "struct"] nofun).1
  have cut := (run_dump sampleFiles ["struct", "cut"] nofun).1
  have calm : ∀ path ∈ ["struct", "short", "none", "struct"],
      ¬IsFaulty path (sampleFiles path) := by
    have settled : ∀ path ∈ ["struct", "short", "none", "struct"],
        (alone path (sampleFiles path)).toOption.isSome = true := by decide +kernel
    rintro path member ⟨fault, faulted⟩
    have kept := settled path member
    rw [faulted] at kept
    cases kept
  have faulty : ∃ path ∈ ["struct", "cut"], IsFaulty path (sampleFiles path) :=
    ⟨"cut", by decide, .truncated 1 4 4, rfl⟩
  refine ⟨nofun, nofun, ?_, ?_, ?_, cut.faulted faulty⟩
  · rw [dumped.output_eq calm]
    decide +kernel
  · rw [dumped.errors_eq calm]
    decide +kernel
  · exact (dumped.code_eq calm).1 ⟨"none", by decide, _, rfl⟩

end Shading.CommandLine
