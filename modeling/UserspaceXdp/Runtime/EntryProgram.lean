import UserspaceXdp.Runtime.Context

/-!
Contract: which program of the shared memory `ebpf_module_init` selects.

Owns: `load_ebpf_programs` and `ebpf_module_init` over any handler table, what
they select, and the tables on which that is a program with an entry name
whenever there is one.

Does not own: bpftime. How it loads a program, and what a loaded program does,
are parameters; a failed load is a negative result.
-/

namespace UserspaceXdp.Runtime

/-! ## The handler table -/

/-- `bpf_prog_handler`, in the fields that are read. -/
structure BpfProgHandler (Inst : Type) where
  name : String
  insns : List Inst

/-- An entry of the table. Handlers that are not programs are skipped alike. -/
inductive Handler (Inst : Type) where
  | prog (prog : BpfProgHandler Inst)
  | map
  | other

/-- `bpftime_helper_info`, without the address of the function. -/
structure HelperInfo where
  index : Nat
  name : String
deriving DecidableEq

def csumDiff : HelperInfo := ⟨28, "bpftime_csum_diff"⟩
def xdpAdjustTail : HelperInfo := ⟨65, "bpf_xdp_adjust_tail"⟩
def bpfRedirectMap : HelperInfo := ⟨51, "bpf_redirect_map"⟩

/-- A `bpftime_prog`, its two helper groups apart: every program has both. -/
structure BpftimeProg (Inst : Type) where
  insns : List Inst
  name : String
  rawHelpers : List HelperInfo

/-- What a program runs as once it is loaded. -/
inductive Code where
  | aot (object : List UInt8)
  | compiled (jit : Bool)

/-- What `load_ebpf_programs` gets from bpftime and from the environment.
`getAotObject` is `none` where the function of that name fails. -/
structure Bpftime (Inst : Type) where
  getAotObject : Option (List UInt8)
  ifEnableJit : Bool
  loadAotObject : BpftimeProg Inst → List UInt8 → Int
  bpftimeProgLoad : BpftimeProg Inst → Bool → Int
  bpftimeProgExec : BpftimeProg Inst → Code → XdpProgram

/-- The calls that load a program succeed. -/
structure Bpftime.Succeeds {Inst : Type} (bpftime : Bpftime Inst) : Prop where
  loadAotObject : ∀ prog object, 0 ≤ bpftime.loadAotObject prog object
  bpftimeProgLoad : ∀ prog jit, 0 ≤ bpftime.bpftimeProgLoad prog jit

variable {Inst : Type}

/-- The two names that the runtime looks for. -/
def BpfProgHandler.IsEntry (prog : BpfProgHandler Inst) : Prop :=
  prog.name = "xdp_pass" ∨ prog.name = "balancer_ingres"

instance (prog : BpfProgHandler Inst) : Decidable prog.IsEntry :=
  inferInstanceAs (Decidable (_ ∨ _))

abbrev EntryProg (Inst : Type) := Option (BpftimeProg Inst × Code)

/-! ## The module -/

section Module

variable (bpftime : Bpftime Inst)

/-- The new program with its helpers registered. -/
def newProg (prog : BpfProgHandler Inst) : BpftimeProg Inst :=
  { insns := prog.insns
    name := prog.name
    rawHelpers := [csumDiff, xdpAdjustTail, bpfRedirectMap] }

/-- The result of the load, and the loaded code. -/
def loadProg (prog : BpftimeProg Inst) : Int × Code :=
  match bpftime.getAotObject with
  | some object => (bpftime.loadAotObject prog object, .aot object)
  | none => (bpftime.bpftimeProgLoad prog bpftime.ifEnableJit, .compiled bpftime.ifEnableJit)

/-- The return value, and `entry_prog` after the call. The first program ends the
loop, whatever it is called. -/
def loadEbpfPrograms (entryProg : EntryProg Inst) : List (Handler Inst) → Int × EntryProg Inst
  | [] => (0, entryProg)
  | .prog prog :: _ =>
      let loaded := loadProg bpftime (newProg prog)
      if loaded.1 < 0 then (-1, entryProg)
      else (0, if prog.IsEntry then some (newProg prog, loaded.2) else entryProg)
  | .map :: rest => loadEbpfPrograms entryProg rest
  | .other :: rest => loadEbpfPrograms entryProg rest

/-- `entry_prog` after `ebpf_module_init`, which ignores the result of the load. -/
def ebpfModuleInit (table : List (Handler Inst)) : EntryProg Inst :=
  (loadEbpfPrograms bpftime none table).2

/-- `ebpf_module_run_at_handler` after `ebpf_module_init`. -/
def runAtHandler (table : List (Handler Inst)) (context : XdpMdUserspace)
    (memory : Foundation.Memory) (ret : Nat) : XdpOutcome :=
  ebpfModuleRunAtHandler
    ((ebpfModuleInit bpftime table).map fun entry => bpftime.bpftimeProgExec entry.1 entry.2)
    context memory ret

end Module

/-! ## The selection -/

/-- The programs of the table, in its order. -/
def programs (table : List (Handler Inst)) : List (BpfProgHandler Inst) :=
  table.filterMap fun handler =>
    match handler with
    | .prog prog => some prog
    | .map => none
    | .other => none

/-- The program of a table entry is the one that packets go to. -/
structure Selected (bpftime : Bpftime Inst) (table : List (Handler Inst))
    (prog : BpfProgHandler Inst) : Prop where
  entry : ebpfModuleInit bpftime table = some (newProg prog, (loadProg bpftime (newProg prog)).2)
  executed : ∀ context memory ret, runAtHandler bpftime table context memory ret =
    bpftime.bpftimeProgExec (newProg prog) (loadProg bpftime (newProg prog)).2 context memory

/-- What the module is for: some program with an entry name is selected if there
is one, and otherwise nothing is, and `*ret` stays. -/
structure SelectsEntry (bpftime : Bpftime Inst) (table : List (Handler Inst)) : Prop where
  found : (∃ prog ∈ programs table, prog.IsEntry) →
    ∃ prog ∈ programs table, prog.IsEntry ∧ Selected bpftime table prog
  missing : (¬ ∃ prog ∈ programs table, prog.IsEntry) →
    ebpfModuleInit bpftime table = none ∧
      ∀ context memory ret, runAtHandler bpftime table context memory ret = ⟨ret, context, memory⟩

variable {bpftime : Bpftime Inst} {table : List (Handler Inst)}

/-- Only the first program of the table counts. -/
theorem loadEbpfPrograms_eq (succeeds : bpftime.Succeeds) (entryProg : EntryProg Inst)
    (table : List (Handler Inst)) :
    loadEbpfPrograms bpftime entryProg table =
      (0, match (programs table).head? with
        | some prog =>
            if prog.IsEntry then some (newProg prog, (loadProg bpftime (newProg prog)).2)
            else entryProg
        | none => entryProg) := by
  induction table with
  | nil => rfl
  | cons handler rest inductionHypothesis =>
      cases handler with
      | prog prog =>
          have loads : ¬ (loadProg bpftime (newProg prog)).1 < 0 := by
            unfold loadProg
            split
            · exact Int.not_lt.mpr (succeeds.loadAotObject _ _)
            · exact Int.not_lt.mpr (succeeds.bpftimeProgLoad _ _)
          rw [loadEbpfPrograms, if_neg loads]
          rfl
      | map => exact inductionHypothesis
      | other => exact inductionHypothesis

theorem selected_of_first {prog : BpfProgHandler Inst} (succeeds : bpftime.Succeeds)
    (first : (programs table).head? = some prog) (named : prog.IsEntry) :
    Selected bpftime table prog := by
  have entry : ebpfModuleInit bpftime table =
      some (newProg prog, (loadProg bpftime (newProg prog)).2) := by
    rw [ebpfModuleInit, loadEbpfPrograms_eq succeeds, first]
    exact if_pos named
  refine ⟨entry, fun context memory ret => ?_⟩
  rw [runAtHandler, entry]
  rfl

theorem init_eq_none_of_first (succeeds : bpftime.Succeeds)
    (unnamed : ∀ prog, (programs table).head? = some prog → ¬ prog.IsEntry) :
    ebpfModuleInit bpftime table = none := by
  rw [ebpfModuleInit, loadEbpfPrograms_eq succeeds]
  cases first : (programs table).head? with
  | none => rfl
  | some prog => exact if_neg (unnamed prog first)

/-- The entry program is found exactly if it comes first among the programs. -/
theorem entry_program_selected_iff (bpftime : Bpftime Inst) (succeeds : bpftime.Succeeds)
    (table : List (Handler Inst)) :
    SelectsEntry bpftime table ↔
      (∀ prog ∈ programs table, ¬ prog.IsEntry) ∨
        ∃ prog, (programs table).head? = some prog ∧ prog.IsEntry := by
  constructor
  · intro selects
    by_contra neither
    obtain ⟨present, late⟩ := not_or.mp neither
    have named : ∃ prog ∈ programs table, prog.IsEntry := by
      simpa using present
    have nothing : ebpfModuleInit bpftime table = none :=
      init_eq_none_of_first succeeds fun prog first named => late ⟨prog, first, named⟩
    obtain ⟨prog, -, -, selected⟩ := selects.found named
    cases nothing.symm.trans selected.entry
  · intro condition
    constructor
    · intro ⟨prog, member, named⟩
      cases condition with
      | inl absent => exact absurd named (absent prog member)
      | inr leading =>
          obtain ⟨leader, first, leaderNamed⟩ := leading
          exact ⟨leader, List.mem_of_mem_head? first, leaderNamed,
            selected_of_first succeeds first leaderNamed⟩
    · intro absent
      have nothing : ebpfModuleInit bpftime table = none := by
        apply init_eq_none_of_first succeeds
        intro prog first named
        exact absent ⟨prog, List.mem_of_mem_head? first, named⟩
      refine ⟨nothing, fun context memory ret => ?_⟩
      rw [runAtHandler, nothing]
      rfl

/-- A bpftime whose loads succeed and whose programs drop every packet. -/
def plainBpftime : Bpftime Nat where
  getAotObject := none
  ifEnableJit := true
  loadAotObject _ _ := 0
  bpftimeProgLoad _ _ := 0
  bpftimeProgExec _ _ := fun context memory => ⟨xdpDrop, context, memory⟩

theorem plainBpftime_succeeds : plainBpftime.Succeeds :=
  ⟨fun _ _ => le_refl _, fun _ _ => le_refl _⟩

/-- A map and two programs, the second of which is the entry program. -/
def lateEntryTable : List (Handler Nat) :=
  [.map, .prog ⟨"xdp_stats", [0x95]⟩, .other, .prog ⟨"xdp_pass", [0x95]⟩]

/-- The entry program comes after a map and before another program. -/
def earlyEntryTable : List (Handler Nat) :=
  [.map, .other, .prog ⟨"balancer_ingres", [0xb7, 0x95]⟩, .prog ⟨"xdp_stats", [0x95]⟩, .map]

theorem first_program_is_selected : SelectsEntry plainBpftime earlyEntryTable :=
  (entry_program_selected_iff plainBpftime plainBpftime_succeeds earlyEntryTable).mpr
    (Or.inr ⟨⟨"balancer_ingres", [0xb7, 0x95]⟩, rfl, Or.inr rfl⟩)

theorem later_entry_program_is_missed :
    plainBpftime.Succeeds ∧ ¬ SelectsEntry plainBpftime lateEntryTable := by
  refine ⟨plainBpftime_succeeds, fun selects => ?_⟩
  have present : ∃ prog ∈ programs lateEntryTable, prog.IsEntry :=
    ⟨⟨"xdp_pass", [0x95]⟩, by simp [programs, lateEntryTable], Or.inl rfl⟩
  obtain ⟨prog, -, -, selected⟩ := selects.found present
  have nothing : ebpfModuleInit plainBpftime lateEntryTable = none := by
    apply init_eq_none_of_first plainBpftime_succeeds
    intro prog first
    cases first
    decide
  cases nothing.symm.trans selected.entry

end UserspaceXdp.Runtime
