import VCIssuer.Library.Files
import VCIssuer.Service.AppAttestOnce

/-!
# The file of the App Attest instances

The table of the registered instances is saved as JSON after every change, and
loaded when the process starts.  A save can be cut short at any octet, by an
error or by the end of the process.
-/

namespace VCIssuer.Service

open VCIssuer.Library

/-! ## The table as JSON -/

def RegisteredInstance.toValue (inst : RegisteredInstance) : Value :=
  .object
    [ ("app_id", .string inst.appId),
      ("public_key", .array (inst.publicKey.map fun octet => .nat octet.toUInt64)),
      ("sign_count", .nat inst.signCount.toUInt64) ]

def octetOf (value : Value) : Option UInt8 := do
  let number ← value.asU64
  if number.toNat < UInt8.size then some number.toUInt8 else none

def RegisteredInstance.ofValue (value : Value) : Option RegisteredInstance := do
  let field ← value.struct ["app_id", "public_key", "sign_count"]
  let appId ← (← field "app_id").asStr
  let publicKey ← (← (← field "public_key").asArray).mapM octetOf
  let signCount ← (← field "sign_count").asU64
  if signCount.toNat < UInt32.size then some ⟨appId, publicKey, signCount.toUInt32⟩ else none

def instancesToValue (instances : StringMap RegisteredInstance) : Value :=
  .object (instances.entries.map fun entry => (entry.1, entry.2.toValue))

def instanceOf (member : String × Value) : Option (Sigma fun _ : String => RegisteredInstance) :=
  (RegisteredInstance.ofValue member.2).map fun inst => ⟨member.1, inst⟩

def instancesOfValue : Value → Option (StringMap RegisteredInstance)
  | .object members => (members.mapM instanceOf).map List.toAList
  | _ => none

/-! ## Saving and loading -/

section Files

variable (crates : Crates) (path : String)

/-- A missing or unreadable file yields an empty table. -/
def loadInstances (files : Directory) : StringMap RegisteredInstance :=
  (((files path).bind crates.valueFromSlice).bind instancesOfValue).getD ∅

def saveInstances (instances : StringMap RegisteredInstance) (progress : Replacing)
    (files : Directory) : Directory :=
  files.replace (Directory.withExtension path "tmp") path
    (crates.valueToVec (instancesToValue instances)) progress

end Files

/-! ## What is saved is loaded -/

section Tables

variable {instances : StringMap RegisteredInstance}

theorem octetOf_nat (octet : UInt8) : octetOf (.nat octet.toUInt64) = some octet := by
  refine bind_of_eq_some octet.toUInt64 rfl ?_
  rw [if_pos (by simpa using octet.toNat_lt), UInt8.toUInt8_toUInt64]

theorem RegisteredInstance.toValue_distinct (inst : RegisteredInstance) :
    ([ ("app_id", Value.string inst.appId),
      ("public_key", .array (inst.publicKey.map fun octet => .nat octet.toUInt64)),
      ("sign_count", .nat inst.signCount.toUInt64) ].map Prod.fst).Nodup := by
  simp

theorem RegisteredInstance.toValue_plain (inst : RegisteredInstance) (depth : Nat) :
    PlainJson (depth + 2) inst.toValue := by
  refine .object inst.toValue_distinct fun member found => ?_
  simp only [List.mem_cons, List.not_mem_nil, or_false] at found
  rcases found with rfl | rfl | rfl
  · exact .string
  · refine .array fun item among => ?_
    obtain ⟨_, _, rfl⟩ := List.mem_map.mp among
    exact .natural
  · exact .natural

theorem RegisteredInstance.ofValue_canonical (inst : RegisteredInstance) :
    RegisteredInstance.ofValue inst.toValue.canonical = some inst := by
  have octets : (inst.publicKey.map fun octet => Value.nat octet.toUInt64).mapM octetOf =
      some inst.publicKey := by
    rw [mapM_eq_some_iff_forall₂, List.forall₂_map_left_iff]
    exact List.forall₂_same.mpr fun octet _ => octetOf_nat octet
  have items : (Value.array (inst.publicKey.map fun octet => .nat octet.toUInt64)).canonical =
      .array (inst.publicKey.map fun octet => .nat octet.toUInt64) := by
    simp [Value.canonical, Value.canonicalItems_eq, Value.nat, Function.comp_def]
  refine bind_of_eq_some _ (Value.struct_canonical inst.toValue_distinct _) ?_
  refine bind_of_eq_some (.string inst.appId) rfl (bind_of_eq_some _ rfl ?_)
  refine bind_of_eq_some _ (congrArg some items) (bind_of_eq_some _ rfl ?_)
  refine bind_of_eq_some _ octets ?_
  refine bind_of_eq_some (.nat inst.signCount.toUInt64) rfl (bind_of_eq_some _ rfl ?_)
  rw [if_pos (by simpa using inst.signCount.toNat_lt), UInt32.toUInt32_toUInt64]

theorem instancesToValue_distinct (instances : StringMap RegisteredInstance) :
    ((instances.entries.map fun entry => (entry.1, entry.2.toValue)).map Prod.fst).Nodup := by
  rw [List.map_map]
  exact instances.nodupKeys

theorem instancesToValue_plain : PlainJson jsonDepth (instancesToValue instances) := by
  refine .object (instancesToValue_distinct instances) fun member found => ?_
  obtain ⟨entry, _, rfl⟩ := List.mem_map.mp found
  exact entry.2.toValue_plain _

/-- A table that is read member by member has what each member is read as. -/
theorem dlookup_of_mapM {members : List (String × Value)}
    {entries : List (Sigma fun _ : String => RegisteredInstance)}
    (read : members.mapM instanceOf = some entries) (keyId : String) :
    entries.dlookup keyId = (members.lookup keyId).bind RegisteredInstance.ofValue := by
  induction members generalizing entries with
  | nil =>
      cases read
      rfl
  | cons member members carried =>
      obtain ⟨entry, rest, first, later, rfl⟩ :=
        List.forall₂_cons_left_iff.mp (mapM_eq_some_iff_forall₂.mp read)
      obtain ⟨inst, readInst, rfl⟩ := Option.map_eq_some_iff.mp first
      rw [Value.lookup_member]
      by_cases same : keyId = member.1
      · subst same
        rw [if_pos rfl, Option.bind_some, readInst, List.dlookup_cons_eq]
      · rw [if_neg same, List.dlookup_cons_ne _ _ same,
          carried (mapM_eq_some_iff_forall₂.mpr later)]

theorem lookup_entries (entries : List (Sigma fun _ : String => RegisteredInstance))
    (keyId : String) :
    (entries.map fun entry => (entry.1, entry.2.toValue)).lookup keyId =
      (entries.dlookup keyId).map RegisteredInstance.toValue := by
  induction entries with
  | nil => rfl
  | cons entry entries carried =>
      rw [List.map_cons, Value.lookup_member]
      by_cases same : keyId = entry.1
      · subst same
        rw [if_pos rfl, List.dlookup_cons_eq]
        rfl
      · rw [if_neg same, List.dlookup_cons_ne _ _ same, carried]

/-- A table comes back as it was written, up to the order of its members. -/
theorem instancesOfValue_canonical (instances : StringMap RegisteredInstance) :
    ∃ loaded, instancesOfValue (instancesToValue instances).canonical = some loaded ∧
      ∀ keyId, loaded.lookup keyId = instances.lookup keyId := by
  let members := Value.fromMembers (Value.canonicalMembers
    (instances.entries.map fun entry => (entry.1, entry.2.toValue)))
  have whole : (instancesToValue instances).canonical = .object members := by
    rw [instancesToValue, Value.canonical]
  have each : ∀ member ∈ members, ∃ entry, instanceOf member = some entry := by
    intro member found
    have written := Value.mem_of_mem_fromMembers _ found
    rw [Value.canonicalMembers_eq, List.map_map] at written
    obtain ⟨entry, _, rfl⟩ := List.mem_map.mp written
    exact ⟨entry, Option.map_eq_some_iff.mpr ⟨entry.2, entry.2.ofValue_canonical, rfl⟩⟩
  obtain ⟨entries, read⟩ := exists_mapM_eq_some each
  refine ⟨entries.toAList, ?_, fun keyId => ?_⟩
  · rw [whole, instancesOfValue, read, Option.map_some]
  · have found : members.lookup keyId =
        ((instancesToValue instances).get keyId).map Value.canonical := by
      have get := Value.get_canonical (instancesToValue_distinct instances) keyId
      exact get
    rw [AList.lookup_to_alist, dlookup_of_mapM read, found]
    change ((((instances.entries.map fun entry => (entry.1, entry.2.toValue)).lookup keyId).map
      Value.canonical).bind RegisteredInstance.ofValue) = _
    rw [lookup_entries]
    change _ = instances.entries.dlookup keyId
    cases instances.entries.dlookup keyId with
    | none => rfl
    | some inst => exact inst.ofValue_canonical

/-- The same instances are registered, each with the same counter. -/
def SameInstances (first second : StringMap RegisteredInstance) : Prop :=
  ∀ keyId, first.lookup keyId = second.lookup keyId

theorem SameInstances.countsKept {first second : StringMap RegisteredInstance}
    (same : SameInstances first second) : CountsKept second first := fun keyId inst found =>
  ⟨inst, (same keyId).trans found, UInt32.le_refl _⟩

variable {crates : Crates} {path : String} {files : Directory}

/-- A save that goes through can be loaded. -/
theorem loadInstances_saved (serde : SerdeJsonLaws crates) :
    SameInstances (loadInstances crates path (saveInstances crates path instances .renamed files))
      instances := by
  obtain ⟨loaded, read, same⟩ := instancesOfValue_canonical instances
  rw [loadInstances, saveInstances, Directory.replace_renamed, Option.bind_some,
    serde.readsWritten _ instancesToValue_plain, Option.bind_some, read, Option.getD_some]
  exact same

/-- A save that is cut short leaves what was there before. -/
theorem loadInstances_interrupted (apart : Directory.withExtension path "tmp" ≠ path)
    {progress : Replacing} (interrupted : progress ≠ .renamed) :
    loadInstances crates path (saveInstances crates path instances progress files) =
      loadInstances crates path files := by
  rw [loadInstances, saveInstances, Directory.replace_interrupted apart interrupted]
  rfl

end Tables

/-! ## The machine -/

structure FileDeployment where
  world : World
  files : Directory

/-- A process dies at any moment of a step, or between two of them. -/
inductive FileOperation where
  | act (action : Action) (progress : Replacing)
  | die (action : Action) (progress : Replacing)
  | restart

/-- A step that was answered or that the process died in, with the table that it put in the file,
or a restart. -/
inductive FileEvent where
  | served (event : Event) (stored : Option (StringMap RegisteredInstance))
  | died (event : Event) (stored : Option (StringMap RegisteredInstance))
  | restarted

section Steps

variable (crates : Crates) (state : AppState) (path : String)

def FileDeployment.start (files : Directory) (drawn : List Draw) : FileDeployment where
  world := { World.initial (loadInstances crates path files) with drawn := drawn }
  files := files

def FileDeployment.initial (files : Directory) : FileDeployment :=
  .start crates path files []

/-- The files after a step, and the table that it put in place. -/
def savedBy (files : Directory) (event : Event) (w : World) (progress : Replacing) :
    Directory × Option (StringMap RegisteredInstance) :=
  if event.saves crates state then
    (saveInstances crates path w.inner.appAttestInstances progress files,
      if progress = .renamed then some w.inner.appAttestInstances else none)
  else (files, none)

def fileStep (d : FileDeployment) : FileOperation → Option (FileDeployment × FileEvent)
  | .act action progress =>
      (step crates state d.world action).map fun (w, event) =>
        let (files, stored) := savedBy crates state path d.files event w progress
        (⟨w, files⟩, .served event stored)
  | .die action progress =>
      (step crates state d.world action).map fun (w, event) =>
        let (files, stored) := savedBy crates state path d.files event w progress
        (.start crates path files w.drawn, .died event stored)
  | .restart => some (.start crates path d.files d.world.drawn, .restarted)

def fileDeployment : Machine FileDeployment FileOperation FileEvent :=
  ⟨fileStep crates state path⟩

end Steps

/-- What a step of the deployment does, one case for each way that it can end. -/
inductive FileStep (crates : Crates) (state : AppState) (path : String) (d : FileDeployment) :
    FileEvent → FileDeployment → Prop
  | served {event : Event} {w : World} (progress : Replacing)
      (took : Took crates state d.world event w) :
      FileStep crates state path d
        (.served event (savedBy crates state path d.files event w progress).2)
        ⟨w, (savedBy crates state path d.files event w progress).1⟩
  | died {event : Event} {w : World} (progress : Replacing)
      (took : Took crates state d.world event w) :
      FileStep crates state path d
        (.died event (savedBy crates state path d.files event w progress).2)
        (.start crates path (savedBy crates state path d.files event w progress).1 w.drawn)
  | restarted : FileStep crates state path d .restarted
      (.start crates path d.files d.world.drawn)

section Inversion

variable {crates : Crates} {state : AppState} {path : String} {d d' : FileDeployment}

theorem fileDeployment_step {operation : FileOperation} {event : FileEvent}
    (stepped : (fileDeployment crates state path).step d operation = some (d', event)) :
    FileStep crates state path d event d' := by
  change fileStep crates state path d operation = _ at stepped
  cases operation with
  | act action progress =>
      obtain ⟨_, accepted, same⟩ := Option.map_eq_some_iff.mp stepped
      cases same
      exact .served progress (step_took accepted)
  | die action progress =>
      obtain ⟨_, accepted, same⟩ := Option.map_eq_some_iff.mp stepped
      cases same
      exact .died progress (step_took accepted)
  | restart =>
      cases stepped
      exact .restarted

/-- A table that was put in the file is loaded from it. -/
theorem savedBy_stored (serde : SerdeJsonLaws crates) {files : Directory} {event : Event} {w : World}
    {progress : Replacing} {table : StringMap RegisteredInstance}
    (stored : (savedBy crates state path files event w progress).2 = some table) :
    table = w.inner.appAttestInstances ∧
      SameInstances (loadInstances crates path (savedBy crates state path files event w progress).1)
        table := by
  unfold savedBy at stored ⊢
  split_ifs at stored ⊢ with saves renamed
  cases stored
  exact ⟨rfl, renamed ▸ loadInstances_saved serde⟩

/-- Unless a table was put in the file, what is loaded from it stays the same. -/
theorem savedBy_unstored (apart : Directory.withExtension path "tmp" ≠ path) {files : Directory}
    {event : Event} {w : World} {progress : Replacing}
    (unstored : (savedBy crates state path files event w progress).2 = none) :
    loadInstances crates path (savedBy crates state path files event w progress).1 =
      loadInstances crates path files := by
  unfold savedBy at unstored ⊢
  split_ifs at unstored ⊢ with saves renamed
  · exact loadInstances_interrupted apart renamed
  · rfl

theorem savedBy_saves {files : Directory} {event : Event} {w : World} {progress : Replacing}
    (saves : event.saves crates state = true) :
    savedBy crates state path files event w progress =
      (saveInstances crates path w.inner.appAttestInstances progress files,
        if progress = .renamed then some w.inner.appAttestInstances else none) :=
  if_pos saves

end Inversion

/-! ## The last save that went through -/

def FileEvent.stored : FileEvent → Option (StringMap RegisteredInstance)
  | .served _ stored => stored
  | .died _ stored => stored
  | .restarted => none

/-- The table that was put in the file last. -/
def lastStored (initially : StringMap RegisteredInstance) (trace : List FileEvent) :
    StringMap RegisteredInstance :=
  ((trace.filterMap FileEvent.stored).getLast?).getD initially

section Runs

variable {crates : Crates} {state : AppState} {path : String} {files : Directory}
  {trace : List FileEvent} {d d' : FileDeployment} {event : FileEvent}

theorem lastStored_append (initially : StringMap RegisteredInstance) :
    lastStored initially (trace ++ [event]) = event.stored.getD (lastStored initially trace) := by
  unfold lastStored
  rw [List.filterMap_append]
  cases stored : event.stored <;> simp [stored]

theorem FileStep.stored (serde : SerdeJsonLaws crates)
    (stepped : FileStep crates state path d event d')
    {table : StringMap RegisteredInstance} (stored : event.stored = some table) :
    SameInstances (loadInstances crates path d'.files) table := by
  cases stepped with
  | served => exact (savedBy_stored serde stored).2
  | died => exact (savedBy_stored serde stored).2
  | restarted => cases stored

theorem FileStep.unstored (apart : Directory.withExtension path "tmp" ≠ path)
    (stepped : FileStep crates state path d event d') (unstored : event.stored = none) :
    loadInstances crates path d'.files = loadInstances crates path d.files := by
  cases stepped with
  | served => exact savedBy_unstored apart unstored
  | died => exact savedBy_unstored apart unstored
  | restarted => rfl

/-- Whatever fails and wherever the process dies, the file holds the last table that was saved to
the end, and never a part of one. -/
theorem file_holds_lastStored (serde : SerdeJsonLaws crates)
    (apart : Directory.withExtension path "tmp" ≠ path)
    (run : (fileDeployment crates state path).Execution (.initial crates path files) trace d) :
    SameInstances (loadInstances crates path d.files)
      (lastStored (loadInstances crates path files) trace) := by
  refine run.history (P := fun trace d => SameInstances (loadInstances crates path d.files)
    (lastStored (loadInstances crates path files) trace)) (fun _ => rfl) ?_
  intro trace d _ d' event _ held stepped
  have stepped := fileDeployment_step stepped
  rw [lastStored_append]
  cases stored : event.stored with
  | none =>
      rw [stepped.unstored apart stored]
      exact held
  | some table => exact stepped.stored serde stored

/-! ## Counters across crashes -/

/-- What a client has seen of a step. -/
def FileEvent.answered : FileEvent → DeploymentEvent
  | .served event _ => .served event
  | .died _ _ => .restarted
  | .restarted => .restarted

/-- The step, answered or not. -/
def FileEvent.ran : FileEvent → Option Event
  | .served event _ => some event
  | .died event _ => some event
  | .restarted => none

end Runs

section Words

variable (crates : Crates) (state : AppState) (path : String) (files : Directory)
  (trace : List FileEvent)

/-- Every answered request that saves has saved to the end. -/
def AnswersSaved : Prop :=
  ∀ event stored, FileEvent.served event stored ∈ trace → event.saves crates state = true →
    stored.isSome

/-- Registrations are stored only over instances that have not been used. -/
def StoresUnused : Prop :=
  ∀ earlier d event served keyId inst,
    (fileDeployment crates state path).StepAt (.initial crates path files) trace earlier d event →
    event.ran = some served → served.origin = .resumed (.appAttestStore keyId inst) →
    ∀ registered, d.world.inner.appAttestInstances.lookup keyId = some registered →
      registered.signCount = 0

/-- Answered assertions have growing counters, and no instance is lost. -/
structure CountersSurvive : Prop where
  increasing : ∀ keyId,
    (acceptedCounters crates state keyId (trace.map FileEvent.answered)).Pairwise (· < ·)
  once : ∀ keyId assertion, AtMostOnce (fun event : FileEvent =>
    event.answered.AcceptsAssertion crates state keyId assertion) trace
  kept : ∀ earlier d event d',
    (fileDeployment crates state path).TransitionAt (.initial crates path files) trace earlier d
      event d' → CountsKept d.world.inner.appAttestInstances d'.world.inner.appAttestInstances

end Words

section Survival

variable {crates : Crates} {state : AppState} {path : String} {files : Directory}
  {trace : List FileEvent} {d d' : FileDeployment} {event : FileEvent}

theorem CountsKept.trans {first second third : StringMap RegisteredInstance}
    (early : CountsKept first second) (late : CountsKept second third) : CountsKept first third := by
  intro keyId inst found
  obtain ⟨next, foundNext, atMost⟩ := early keyId inst found
  obtain ⟨last, foundLast, atMostLast⟩ := late keyId next foundNext
  exact ⟨last, foundLast, UInt32.le_trans atMost atMostLast⟩

theorem Counted.kept {served : List DeploymentEvent} {before after : StringMap RegisteredInstance}
    (counted : Counted crates state served before) (kept : CountsKept before after) :
    Counted crates state served after := by
  intro keyId
  obtain ⟨ordered, below⟩ := counted keyId
  refine ⟨ordered, fun counter member => ?_⟩
  obtain ⟨inst, found, atMost⟩ := below counter member
  obtain ⟨later, foundLater, grown⟩ := kept keyId inst found
  exact ⟨later, foundLater, UInt32.le_trans atMost grown⟩

/-- A world with a store that is up to date. -/
def World.stored (w : World) : Deployment := ⟨w, w.inner.appAttestInstances⟩

theorem Took.counterStep {w w' : World} {served : Event} (took : Took crates state w served w') :
    CounterStep crates state w.stored (.served served) w'.stored ∧
      (served.saves crates state = false →
        w'.inner.appAttestInstances = w.inner.appAttestInstances) := by
  have stepped : DeploymentStep crates state w.stored (.served served)
      ⟨w', storeAfter crates state w.stored.store served w'⟩ := .served took rfl
  obtain ⟨counterStep, synced⟩ := stepped.counterStep rfl
  have synced : storeAfter crates state w.stored.store served w' =
      w'.inner.appAttestInstances := synced
  rw [synced] at counterStep
  refine ⟨counterStep, fun unsaved => ?_⟩
  rw [storeAfter, unsaved] at synced
  exact synced.symm

/-- No step over unused instances turns a counter back. -/
theorem Took.countsKept {w w' : World} {served : Event} (took : Took crates state w served w')
    (unused : ∀ keyId inst, served.origin = .resumed (.appAttestStore keyId inst) →
      ∀ registered, w.inner.appAttestInstances.lookup keyId = some registered →
        registered.signCount = 0) :
    CountsKept w.inner.appAttestInstances w'.inner.appAttestInstances :=
  took.counterStep.1.kept fun _ keyId inst same origin => by
    cases same
    exact unused keyId inst origin

/-- The file is up to date with the process, and the process with every counter it accepted. -/
structure Durable (crates : Crates) (state : AppState) (path : String) (trace : List FileEvent)
    (d : FileDeployment) : Prop where
  counted : Counted crates state (trace.map FileEvent.answered) d.world.inner.appAttestInstances
  loads : SameInstances (loadInstances crates path d.files) d.world.inner.appAttestInstances

theorem durable_initial : Durable crates state path [] (.initial crates path files) where
  counted _ := ⟨List.Pairwise.nil, fun _ impossible => absurd impossible List.not_mem_nil⟩
  loads _ := rfl

/-- What is loaded after a process has died keeps the counters of the process. -/
theorem Durable.died_kept (durable : Durable crates state path trace d) (progress : Replacing)
    (serde : SerdeJsonLaws crates) (apart : Directory.withExtension path "tmp" ≠ path)
    {served : Event} {w : World} (took : Took crates state d.world served w)
    (unused : ∀ keyId inst, served.origin = .resumed (.appAttestStore keyId inst) →
      ∀ registered, d.world.inner.appAttestInstances.lookup keyId = some registered →
        registered.signCount = 0) :
    CountsKept d.world.inner.appAttestInstances
      (loadInstances crates path (savedBy crates state path d.files served w progress).1) := by
  cases stored : (savedBy crates state path d.files served w progress).2 with
  | none =>
      rw [savedBy_unstored apart stored]
      exact durable.loads.countsKept
  | some table =>
      obtain ⟨rfl, same⟩ := savedBy_stored serde stored
      exact (took.countsKept unused).trans same.countsKept

theorem Durable.step (serde : SerdeJsonLaws crates)
    (apart : Directory.withExtension path "tmp" ≠ path) (durable : Durable crates state path trace d)
    (stepped : FileStep crates state path d event d')
    (saved : ∀ served stored, event = .served served stored → served.saves crates state = true →
      stored.isSome)
    (unused : ∀ served keyId inst, event.ran = some served →
      served.origin = .resumed (.appAttestStore keyId inst) →
      ∀ registered, d.world.inner.appAttestInstances.lookup keyId = some registered →
        registered.signCount = 0) :
    Durable crates state path (trace ++ [event]) d' ∧
      CountsKept d.world.inner.appAttestInstances d'.world.inner.appAttestInstances := by
  cases stepped with
  | @served served w progress took =>
      have kept := took.countsKept (unused served · · rfl)
      refine ⟨⟨?_, ?_⟩, kept⟩
      · rw [List.map_append]
        exact Counted.step (d := d.world.stored) durable.counted took.counterStep.1
          fun _ keyId inst same origin => by
            cases same
            exact unused served keyId inst rfl origin
      · cases saves : served.saves crates state with
        | true =>
            obtain ⟨table, stored⟩ := Option.isSome_iff_exists.mp (saved _ _ rfl saves)
            obtain ⟨rfl, same⟩ := savedBy_stored serde stored
            exact same
        | false =>
            have aside : savedBy crates state path d.files served w progress = (d.files, none) := by
              rw [savedBy, saves]
              rfl
            rw [aside, took.counterStep.2 saves]
            exact durable.loads
  | @died served w progress took =>
      have kept := durable.died_kept progress serde apart took (unused served · · rfl)
      refine ⟨⟨?_, fun _ => rfl⟩, kept⟩
      rw [List.map_append]
      exact (durable.counted.kept kept).aside fun _ => rfl
  | restarted =>
      have kept := durable.loads.countsKept
      refine ⟨⟨?_, fun _ => rfl⟩, kept⟩
      rw [List.map_append]
      exact (durable.counted.kept kept).aside fun _ => rfl

theorem run_durable (serde : SerdeJsonLaws crates)
    (apart : Directory.withExtension path "tmp" ≠ path)
    (run : (fileDeployment crates state path).Execution (.initial crates path files) trace d)
    (saved : AnswersSaved crates state trace) (unused : StoresUnused crates state path files trace) :
    Durable crates state path trace d := by
  refine run.history (P := fun trace d => AnswersSaved crates state trace →
    StoresUnused crates state path files trace → Durable crates state path trace d)
    (fun _ _ => durable_initial) ?_ saved unused
  intro trace d operation d' event before held stepped saved unused
  have durable := held (fun served stored member => saved served stored (List.mem_append_left _ member))
    fun earlier s event served keyId inst taken =>
      unused earlier s event served keyId inst (taken.append _)
  refine (durable.step serde apart (fileDeployment_step stepped) ?_ ?_).1
  · rintro served stored rfl
    exact saved served stored (List.mem_append_right _ (.head _))
  · exact fun served keyId inst => unused trace d event served keyId inst
      ⟨operation, d', [], rfl, before, stepped⟩

/-- An answered assertion shows a counter. -/
theorem FileStep.asserted_counter (stepped : FileStep crates state path d event d') {served : Event}
    {call : AssertionCall} (answered : event.answered = .served served)
    (asserted : served.asserted crates state = some call) :
    ∃ counter, assertionCounter crates call.assertion = some counter := by
  cases stepped with
  | served _ took =>
      cases answered
      obtain ⟨_, counter, accepts⟩ := took.asserted asserted
      exact ⟨counter, accepts.counter_eq⟩
  | died => cases answered
  | restarted => cases answered

/-- What is accepted twice has shown the same counter twice. -/
theorem accepted_once (run : (fileDeployment crates state path).Execution
      (.initial crates path files) trace d) {keyId : String}
    (increasing : (acceptedCounters crates state keyId
      (trace.map FileEvent.answered)).Pairwise (· < ·)) (assertion : Bytes) :
    AtMostOnce (fun event : FileEvent =>
      event.answered.AcceptsAssertion crates state keyId assertion) trace := by
  rw [atMostOnce_iff]
  rintro earlier event later rfl ⟨served, call, answered, asserted, rfl, rfl⟩ other member
    ⟨first, firstCall, firstAnswered, firstAsserted, sameKey, sameAssertion⟩
  obtain ⟨_, _, _, _, stepped, _⟩ := run.at_event
  obtain ⟨counter, read⟩ := (fileDeployment_step stepped).asserted_counter answered asserted
  have counted := CounterStep.counter_accepted asserted read call.keyId
  have firstCounted := CounterStep.counter_accepted firstAsserted (sameAssertion ▸ read) call.keyId
  rw [if_pos rfl, ← answered] at counted
  rw [if_pos sameKey, ← firstAnswered] at firstCounted
  unfold acceptedCounters at increasing
  rw [List.map_append, List.map_cons, List.filterMap_append, List.filterMap_cons_some counted]
    at increasing
  have less := (List.pairwise_append.mp increasing).2.2 counter
    (List.mem_filterMap.mpr ⟨_, List.mem_map_of_mem member, firstCounted⟩) counter (.head _)
  exact UInt32.lt_irrefl _ less

/-- A process may die anywhere, in the middle of a save too: as long as the requests that it
answers have saved to the end, no answered assertion is accepted again and no instance is lost. -/
theorem counters_survive (serde : SerdeJsonLaws crates)
    (apart : Directory.withExtension path "tmp" ≠ path)
    (run : (fileDeployment crates state path).Execution (.initial crates path files) trace d)
    (saved : AnswersSaved crates state trace) (unused : StoresUnused crates state path files trace) :
    CountersSurvive crates state path files trace := by
  have durable := run_durable serde apart run saved unused
  refine ⟨fun keyId => (durable.counted keyId).1, fun keyId assertion =>
    accepted_once run (durable.counted keyId).1 assertion, ?_⟩
  intro earlier s event t taken
  obtain ⟨operation, later, rfl, before, stepped⟩ := taken
  have durable := run_durable serde apart before
    (fun served stored member => saved served stored (List.mem_append_left _ member))
    fun first u event served keyId inst taken =>
      unused first u event served keyId inst (taken.append _)
  refine (durable.step serde apart (fileDeployment_step stepped) ?_ ?_).2
  · rintro served stored rfl
    exact saved served stored (List.mem_append_right _ (.head _))
  · exact fun served keyId inst => unused earlier s event served keyId inst
      ⟨operation, t, later, rfl, before, stepped⟩

/-- A step of the process, answered or died in. -/
theorem file_steps {w w' : World} {served : Event}
    (path : String) (files : Directory) (run : (process crates state).Execution w [served] w')
    (progress : Replacing) :
    (fileDeployment crates state path).Execution ⟨w, files⟩
        [.served served (savedBy crates state path files served w' progress).2]
        ⟨w', (savedBy crates state path files served w' progress).1⟩ ∧
      (fileDeployment crates state path).Execution ⟨w, files⟩
        [.died served (savedBy crates state path files served w' progress).2]
        (.start crates path (savedBy crates state path files served w' progress).1 w'.drawn) := by
  obtain ⟨action, accepted⟩ := run.of_singleton
  have answers : (fileDeployment crates state path).step ⟨w, files⟩ (.act action progress) = some
      (⟨w', (savedBy crates state path files served w' progress).1⟩,
        .served served (savedBy crates state path files served w' progress).2) :=
    Option.map_eq_some_iff.mpr ⟨_, accepted, rfl⟩
  have dies : (fileDeployment crates state path).step ⟨w, files⟩ (.die action progress) = some
      (.start crates path (savedBy crates state path files served w' progress).1 w'.drawn,
        .died served (savedBy crates state path files served w' progress).2) :=
    Option.map_eq_some_iff.mpr ⟨_, accepted, rfl⟩
  exact ⟨.single answers, .single dies⟩

end Survival

/-! ## A device beside a dying process -/

theorem attesting_serdeJson : SerdeJsonLaws attesting := ⟨reference_serdeJson.readsWritten⟩

/-- The request of the registered device, answered. -/
def assertEvent (assertion : Bytes) : Event :=
  ⟨.arrived (.appAttestAssert (AttestedDevice.assertRequest assertion [])),
    .steady referenceHost 1000 "" [] [], .ok (.finished .ok), []⟩

theorem assertEvent_accepts (assertion : Bytes) :
    DeploymentEvent.AcceptsAssertion attesting attestedState AttestedDevice.keyIdText assertion
      (.served (assertEvent assertion)) :=
  assert_accepts _ assertion []

theorem assertEvent_saves (assertion : Bytes) :
    (assertEvent assertion).saves attesting attestedState = true := by
  have asserted := AttestedDevice.assert_asserted (.steady referenceHost 1000 "" [] []) assertion []
  change (Event.asserted attesting attestedState _).isSome = true
  rw [assertEvent, asserted]
  rfl

theorem assertEvent_run (s : VolatileState) (drawn : List Draw) {stored counter : UInt32}
    {assertion : Bytes} (wrote : attesting.cborToVec
      (.map (attestedDevice.assertionEntries counter [])) = some assertion)
    (found : s.appAttestInstances.lookup AttestedDevice.keyIdText =
      some (attestedDevice.instanceAt stored)) (higher : stored < counter) :
    (process attesting attestedState).Execution ⟨s, [], drawn⟩ [assertEvent assertion]
      ⟨{ s with appAttestInstances :=
        s.appAttestInstances.insert AttestedDevice.keyIdText (attestedDevice.instanceAt counter) },
        [], drawn⟩ :=
  AttestedDevice.asserts_run _ wrote found higher

def instancesPath : String := "instances.json"

/-- The file of a service with one registered device. -/
def deviceFiles : Directory :=
  saveInstances attesting instancesPath
    (AList.insert AttestedDevice.keyIdText (attestedDevice.instanceAt 0) ∅) .renamed fun _ => none

theorem instancesPath_apart : Directory.withExtension instancesPath "tmp" ≠ instancesPath := by
  decide +kernel

/-- The process dies in the middle of a save, and the device asserts again. -/
theorem device_retries :
    ∃ trace d, (fileDeployment attesting attestedState instancesPath).Execution
        (.initial attesting instancesPath deviceFiles) trace d ∧
      (∃ event, .died event none ∈ trace ∧ event.saves attesting attestedState = true) ∧
      (∃ keyId assertion, ∃ event ∈ trace,
        event.answered.AcceptsAssertion attesting attestedState keyId assertion) ∧
      AnswersSaved attesting attestedState trace ∧
      StoresUnused attesting attestedState instancesPath deviceFiles trace := by
  obtain ⟨first, wroteFirst⟩ := AttestedDevice.asserts 1 []
  obtain ⟨second, wroteSecond⟩ := AttestedDevice.asserts 2 []
  let loaded := loadInstances attesting instancesPath deviceFiles
  let once : World := ⟨{ VolatileState.initial loaded with
    appAttestInstances := loaded.insert AttestedDevice.keyIdText (attestedDevice.instanceAt 1) },
    [], []⟩
  let saved := saveInstances attesting instancesPath once.inner.appAttestInstances .renamed
    deviceFiles
  let torn := saveInstances attesting instancesPath
    (once.inner.appAttestInstances.insert AttestedDevice.keyIdText (attestedDevice.instanceAt 2))
    (.stopped 5) saved
  have registered : loaded.lookup AttestedDevice.keyIdText = some (attestedDevice.instanceAt 0) :=
    (loadInstances_saved attesting_serdeJson _).trans (AList.lookup_insert _)
  have asserted := assertEvent_run (.initial loaded) [] wroteFirst registered
    (by decide)
  have again := assertEvent_run once.inner [] wroteSecond
    (AList.lookup_insert loaded) (by decide : (1 : UInt32) < 2)
  obtain ⟨reloaded, same⟩ : ∃ table, table = loadInstances attesting instancesPath torn := ⟨_, rfl⟩
  have kept : reloaded.lookup AttestedDevice.keyIdText = some (attestedDevice.instanceAt 1) := by
    rw [same, loadInstances_interrupted instancesPath_apart (by decide)]
    exact (loadInstances_saved attesting_serdeJson _).trans (AList.lookup_insert _)
  have retried := assertEvent_run (.initial reloaded) [] wroteSecond kept
    (by decide : (1 : UInt32) < 2)
  rw [same] at retried
  have answers := (file_steps instancesPath deviceFiles asserted .renamed).1
  have dies := (file_steps instancesPath saved again (.stopped 5)).2
  have retries := (file_steps instancesPath torn retried .renamed).1
  rw [savedBy_saves (assertEvent_saves first)] at answers
  rw [savedBy_saves (assertEvent_saves second)] at dies retries
  have run := (answers.trans dies).trans retries
  refine ⟨_, _, run, ⟨assertEvent second, by simp [assertEvent], assertEvent_saves second⟩,
    ⟨_, first, _, .head _, assertEvent_accepts first⟩, ?_, ?_⟩
  · intro event stored member _
    simp only [List.cons_append, List.nil_append, List.mem_cons, FileEvent.served.injEq,
      reduceCtorEq, List.not_mem_nil, or_false, false_or] at member
    rcases member with ⟨_, rfl⟩ | ⟨_, rfl⟩ <;> rfl
  · intro earlier s event served keyId inst taken ran origin
    have member := taken.mem
    simp only [List.cons_append, List.nil_append, List.mem_cons, List.not_mem_nil, or_false]
      at member
    rcases member with rfl | rfl | rfl <;> cases ran <;> cases origin

theorem file_holds_lastStored_reference :
    ∃ trace d, (fileDeployment attesting attestedState instancesPath).Execution
        (.initial attesting instancesPath deviceFiles) trace d ∧
      (∃ event, .died event none ∈ trace ∧ event.saves attesting attestedState = true) ∧
      SameInstances (loadInstances attesting instancesPath d.files)
        (lastStored (loadInstances attesting instancesPath deviceFiles) trace) := by
  obtain ⟨trace, d, run, died, _⟩ := device_retries
  exact ⟨trace, d, run, died, file_holds_lastStored attesting_serdeJson instancesPath_apart run⟩

theorem counters_survive_reference :
    ∃ trace d, (fileDeployment attesting attestedState instancesPath).Execution
        (.initial attesting instancesPath deviceFiles) trace d ∧
      (∃ event, .died event none ∈ trace ∧ event.saves attesting attestedState = true) ∧
      (∃ keyId assertion, ∃ event ∈ trace,
        event.answered.AcceptsAssertion attesting attestedState keyId assertion) ∧
      CountersSurvive attesting attestedState instancesPath deviceFiles trace := by
  obtain ⟨trace, d, run, died, accepted, saved, unused⟩ := device_retries
  exact ⟨trace, d, run, died, accepted,
    counters_survive attesting_serdeJson instancesPath_apart run saved unused⟩

end VCIssuer.Service
