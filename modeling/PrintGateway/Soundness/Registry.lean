import PrintGateway.Model.Agent.Registry
import PrintGateway.Soundness.VirtualPrinter

/-!
# Discovery and the rows of an operator

A row that an operator registered survives every sequence of merges and scans with its id, source and enabled flag.
Its transport does not: the evidence step hands the operator's source to the observation, which then outranks the
row.  Pruning looks at the observations that are left after the Agent filtered them.
-/

namespace PrintGateway.Agent

open Machine Text

/-! ### Rows that stay the same -/

/-- What discovery may not change of a row that an operator registered. -/
structure SameRow (r row : Device) : Prop where
  id : row.id = r.id
  source : row.capText? "registration_source" = r.capText? "registration_source"
  enabled : row.enabled = r.enabled

namespace SameRow

variable {r row next : Device}

theorem refl (r : Device) : SameRow r r := ⟨rfl, rfl, rfl⟩

theorem trans (first : SameRow r row) (second : SameRow row next) : SameRow r next :=
  ⟨second.id.trans first.id, second.source.trans first.source, second.enabled.trans first.enabled⟩

theorem isOperator (same : SameRow r row) (operator : isOperatorRegisteredDevice r = true) :
    isOperatorRegisteredDevice row = true := by
  rw [isOperatorRegisteredDevice, same.source]
  exact operator

end SameRow

section Merging

variable {env : DeviceEnv} {prior d : Device}

theorem find?_keepOperatorSource (operator : isOperatorRegisteredDevice prior = true)
    (capabilities : Keyed Text Json.Value) :
    ((keepOperatorSource prior capabilities).find? "registration_source") =
      (prior.capText? "registration_source").map .str := by
  unfold isOperatorRegisteredDevice at operator
  unfold keepOperatorSource
  cases found : prior.capText? "registration_source" with
  | none =>
    rw [found] at operator
    cases operator
  | some source =>
    rw [found, Option.any_some] at operator
    simp only [operator, if_true, Keyed.find?_put_self, Option.map_some]

theorem capText?_congr {d' : Device} {key : String} (same : d.capabilities = d'.capabilities) :
    d.capText? key = d'.capText? key := by
  rw [Device.capText?, Device.capText?, same]

/-- A device whose capabilities keep the source of an operator. -/
theorem capText?_keepOperatorSource {capabilities : Keyed Text Json.Value}
    (operator : isOperatorRegisteredDevice prior = true)
    (kept : d.capabilities = keepOperatorSource prior capabilities) :
    d.capText? "registration_source" = prior.capText? "registration_source" := by
  rw [Device.capText?, kept, find?_keepOperatorSource operator]
  cases prior.capText? "registration_source" <;> rfl

theorem takeTransport_frame (merged incoming : Device) : (takeTransport merged incoming).id = merged.id ∧
    (takeTransport merged incoming).enabled = merged.enabled := by
  unfold takeTransport
  split <;> exact ⟨rfl, rfl⟩

theorem mergeDeviceInfo_frame (env : DeviceEnv) (existing incoming : Device) :
    (mergeDeviceInfo env existing incoming).id = existing.id ∧
    (mergeDeviceInfo env existing incoming).enabled = existing.enabled := by
  dsimp only [mergeDeviceInfo]
  split
  · exact takeTransport_frame (takeNames existing incoming) incoming
  · exact ⟨rfl, rfl⟩

theorem sameRow_mergeObservation (env : DeviceEnv) (d : Device) (operator : isOperatorRegisteredDevice prior = true) :
    SameRow prior (mergeObservation env prior d) := by
  obtain ⟨id, enabled⟩ := mergeDeviceInfo_frame env prior (preserveRegistryObservationEvidence env prior d)
  dsimp only [mergeObservation]
  split
  · exact ⟨id, capText?_keepOperatorSource operator rfl, enabled⟩
  · exact ⟨id, capText?_keepOperatorSource operator rfl, enabled⟩

theorem sameRow_replaceObservation (operator : isOperatorRegisteredDevice prior = true) :
    SameRow prior (replaceObservation env prior d) :=
  ⟨rfl, capText?_keepOperatorSource operator rfl, rfl⟩

end Merging

/-! ### Observing -/

theorem mem_modify {rows : List Device} {row : Device} (member : row ∈ rows) (index : ℕ) (f : Device → Device) :
    row ∈ rows.modify index f ∨ f row ∈ rows.modify index f := by
  obtain ⟨at_, found⟩ := List.mem_iff_getElem?.mp member
  have after := List.getElem?_modify f index rows at_
  rw [found] at after
  by_cases same : index = at_
  · exact .inr (List.mem_iff_getElem?.mpr ⟨at_, by simpa [same] using after⟩)
  · exact .inl (List.mem_iff_getElem?.mpr ⟨at_, by simpa [same] using after⟩)

section Observing

variable {env : DeviceEnv} {r : Device} (operator : isOperatorRegisteredDevice r = true)
  {rows : List Device} {s : Inventory}

/-- There is a row of the operator. -/
def Holds (r : Device) (rows : List Device) : Prop := ∃ row ∈ rows, SameRow r row

include operator

theorem Holds.modify (holds : Holds r rows) (index : ℕ) {f : Device → Device}
    (keeps : ∀ {row}, isOperatorRegisteredDevice row = true → SameRow row (f row)) :
    Holds r (rows.modify index f) := by
  obtain ⟨row, member, same⟩ := holds
  obtain stays | changed := mem_modify member index f
  · exact ⟨row, stays, same⟩
  · exact ⟨f row, changed, same.trans (keeps (same.isOperator operator))⟩

theorem Holds.merge (holds : Holds r s.rows) (d : Device) : Holds r (s.merge env d).rows := by
  unfold Inventory.merge
  split
  · exact holds.modify operator _ (sameRow_mergeObservation env d)
  · split
    · exact holds.modify operator _ sameRow_replaceObservation
    · obtain ⟨row, member, same⟩ := holds
      exact ⟨row, List.mem_append_left _ member, same⟩

theorem Holds.observe (holds : Holds r s.rows) (d : Device) : Holds r (s.observe env d).rows := by
  dsimp only [Inventory.observe]
  split
  · exact holds
  · split
    · exact holds
    · exact holds.merge operator _

theorem Holds.reconcileRows (holds : Holds r rows) (observed : List Device)
    (completeSources : Keyed Text Bool) : Holds r (reconcileRows env rows observed completeSources) := by
  have observing : Holds r ((observed.map markAutomaticDiscoveryRegistration).foldl (Inventory.observe env)
      (Inventory.ofRows rows)).rows :=
    foldl_keeps (fun s : Inventory => Holds r s.rows) holds fun s d _ holds => holds.observe operator d
  obtain ⟨row, member, same⟩ := observing
  have spared : isAutoDiscoveredSpoolerRow row = false := by
    rw [isAutoDiscoveredSpoolerRow, same.isOperator operator]
    rfl
  refine ⟨row, List.mem_filter.mpr ⟨member, ?_⟩, same⟩
  rw [shouldPruneMissingDiscoveryRow, spared, Bool.and_false, Bool.false_and]
  rfl

end Observing

/-! ### Loading -/

section Loading

variable {env : DeviceEnv} {stored row d : Device}

theorem loadRow_eq_some (loaded : loadRow env stored = some row) :
    isVirtualDevice env (discoveredDeviceNames stored.read) = false ∧
      isValidDiscoveredPrinter env (discoveredDeviceNames stored.read) = true ∧
      row = (withRegistrationSource (discoveredDeviceNames stored.read) "registry").unobserved := by
  dsimp only [loadRow] at loaded
  split at loaded
  · cases loaded
  · next valid =>
    split at loaded
    · cases loaded
    · next physical => exact ⟨by simpa using physical, by simpa using valid, (Option.some.inj loaded).symm⟩

theorem isVirtualDevice_unobserved (d : Device) : isVirtualDevice env d.unobserved = isVirtualDevice env d := by
  have facts : factsFromDevice env d.unobserved = factsFromDevice env d := rfl
  rw [isVirtualDevice, classifyDeviceInfo, facts]
  rfl

theorem isValidDiscoveredPrinter_unobserved (d : Device) :
    isValidDiscoveredPrinter env d.unobserved = isValidDiscoveredPrinter env d := by
  rw [isValidDiscoveredPrinter, isVirtualDevice_unobserved]
  rfl

theorem withRegistrationSource_of_operator (operator : isOperatorRegisteredDevice d = true)
    (source : String) : withRegistrationSource d source = d := by
  unfold isOperatorRegisteredDevice at operator
  cases found : d.capText? "registration_source" with
  | none =>
    rw [found] at operator
    cases operator
  | some text =>
    rw [withRegistrationSource, Keyed.insert_of_taken _ (capText?_eq_some found)]

theorem discoveredDeviceNames_of_operator (operator : isOperatorRegisteredDevice d = true) : discoveredDeviceNames d =
      let name := if trimSpace d.name ≠ [] then d.name
        else if trimSpace d.spoolerName ≠ [] then trimSpace d.spoolerName else trimSpace d.displayName
      { d with name := name, displayName := if trimSpace d.displayName = [] then name else d.displayName } := by
  dsimp only [discoveredDeviceNames]
  simp only [operator, Bool.true_eq_false, false_and, if_false]

theorem discoveredDeviceNames_unobserved (d : Device) :
    discoveredDeviceNames d.unobserved = (discoveredDeviceNames d).unobserved := rfl

theorem discoveredDeviceNames_idem (operator : isOperatorRegisteredDevice d = true) :
    discoveredDeviceNames (discoveredDeviceNames d) = discoveredDeviceNames d := by
  have again : isOperatorRegisteredDevice (discoveredDeviceNames d) = true := operator
  have trimmed : ∀ text, trimSpace (trimSpace text) = trimSpace text := Gateway.stripBy_stripBy _
  rw [discoveredDeviceNames_of_operator again, discoveredDeviceNames_of_operator operator]
  dsimp only
  by_cases named : trimSpace d.name = []
  · by_cases queued : trimSpace d.spoolerName = []
    · by_cases shown : trimSpace d.displayName = []
      · simp [named, queued, shown, show trimSpace [] = [] from rfl]
      · simp [named, queued, shown, trimmed]
    · simp [named, queued, trimmed]
      split <;> simp_all
  · simp [named]
    split <;> simp_all

/-- A row of the operator that is loaded and written back is loaded again. -/
theorem sameRow_of_loadRow (operator : isOperatorRegisteredDevice stored = true)
    (loaded : loadRow env stored = some row) :
    SameRow stored row ∧ isVirtualDevice env row = false ∧ (loadRow env row).isSome = true := by
  obtain ⟨physical, valid, rfl⟩ := loadRow_eq_some loaded
  have named : isOperatorRegisteredDevice (discoveredDeviceNames stored.read) = true := operator
  rw [withRegistrationSource_of_operator named]
  have reloaded : discoveredDeviceNames (discoveredDeviceNames stored.read).unobserved.read =
      (discoveredDeviceNames stored.read).unobserved := by
    have read : isOperatorRegisteredDevice stored.read = true := operator
    have untyped : (discoveredDeviceNames stored.read).unobserved.read =
      (discoveredDeviceNames stored.read).unobserved := rfl
    rw [untyped, discoveredDeviceNames_unobserved, discoveredDeviceNames_idem read]
  refine ⟨⟨rfl, capText?_congr rfl, rfl⟩, ?_, ?_⟩
  · rw [isVirtualDevice_unobserved, physical]
  · dsimp only [loadRow]
    rw [reloaded, isValidDiscoveredPrinter_unobserved, valid, isVirtualDevice_unobserved, physical]
    rfl

end Loading

/-! ### Calls -/

section Calls

variable (env : DeviceEnv) (r : Device)

variable {file : List Device}

/-- In every call that saves, what the row of the operator was merged to is a printer: the saver and the next load
keep it. -/
def MergesKept : List Device → List RegistryCall → Prop
  | _, [] => True
  | file, call :: calls =>
    (call.saved = true → ∀ row ∈ call.unsaved env file, SameRow r row →
      isVirtualDevice env row = false ∧ (loadRow env row).isSome = true) ∧ MergesKept (call.run env file) calls

variable {env r}

theorem mem_loadRegistry {stored row : Device} (member : stored ∈ file)
    (loaded : loadRow env stored = some row) :
    row ∈ (loadRegistry env file).1 ∨ row ∈ (loadRegistry env file).2 := by
  have listed : row ∈ file.filterMap (loadRow env) := List.mem_filterMap.mpr ⟨stored, member, loaded⟩
  rw [loadRegistry, List.partition_eq_filter_filter]
  cases managed : isManagedPrinter env row with
  | true => exact .inl (List.mem_filter.mpr ⟨listed, managed⟩)
  | false => exact .inr (List.mem_filter.mpr ⟨listed, by simp [managed]⟩)

/-- One call keeps the row of an operator. -/
theorem RegistryCall.run_keeps {call : RegistryCall} (operator : isOperatorRegisteredDevice r = true)
    (stored : ∃ row ∈ file, SameRow r row ∧ (loadRow env row).isSome = true)
    (kept : call.saved = true → ∀ row ∈ call.unsaved env file, SameRow r row →
      isVirtualDevice env row = false ∧ (loadRow env row).isSome = true) :
    ∃ row ∈ call.run env file, SameRow r row ∧ (loadRow env row).isSome = true := by
  obtain ⟨old, member, same, isSome⟩ := stored
  obtain ⟨row, loaded⟩ := Option.isSome_iff_exists.mp isSome
  obtain ⟨sameRow, physical, again⟩ := sameRow_of_loadRow (same.isOperator operator) loaded
  have listed := mem_loadRegistry member loaded
  dsimp only [RegistryCall.run]
  split
  · next saved =>
    have unsaved : Holds r (call.unsaved env file) := by
      obtain managed | hidden := listed
      · have holds : Holds r (loadRegistry env file).1 := ⟨row, managed, same.trans sameRow⟩
        obtain ⟨row, member, same⟩ := holds.reconcileRows operator call.observed call.completeSources
        exact ⟨row, List.mem_append_left _ member, same⟩
      · exact ⟨row, List.mem_append_right _ hidden, same.trans sameRow⟩
    obtain ⟨row, member, same⟩ := unsaved
    obtain ⟨physical, loads⟩ := kept saved row member same
    exact ⟨row, List.mem_filter.mpr ⟨member, by simp [physical]⟩, same, loads⟩
  · split
    · exact ⟨row, List.mem_filter.mpr ⟨List.mem_append.mpr listed, by simp [physical]⟩, same.trans sameRow, again⟩
    · exact ⟨old, member, same, isSome⟩

/-- A row that an operator registered survives every sequence of calls with its id, its source and its flag. -/
theorem operatorRow_survives {file : List Device} {calls : List RegistryCall} (member : r ∈ file)
    (operator : isOperatorRegisteredDevice r = true) (loads : (loadRow env r).isSome = true)
    (kept : MergesKept env r file calls) :
    ∃ row ∈ calls.foldl (fun file call => call.run env file) file, row.id = r.id ∧
      row.capText? "registration_source" = r.capText? "registration_source" ∧ row.enabled = r.enabled := by
  have survives : ∀ (calls : List RegistryCall) (file : List Device),
      (∃ row ∈ file, SameRow r row ∧ (loadRow env row).isSome = true) → MergesKept env r file calls →
      Holds r (calls.foldl (fun file call => call.run env file) file) := by
    intro calls
    induction calls with
    | nil =>
      rintro file ⟨row, member, same, -⟩ -
      exact ⟨row, member, same⟩
    | cons call calls ih =>
      rintro file stored ⟨kept, rest⟩
      exact ih _ (RegistryCall.run_keeps operator stored kept) rest
  obtain ⟨row, member, same⟩ := survives calls file ⟨r, member, .refl r, loads⟩ kept
  exact ⟨row, member, same.id, same.source, same.enabled⟩

end Calls

variable {connection endpoint address source via id : String} {before after : List Device}
  {r : Device}

/-- A printer of the network or a queue, and how it was registered. -/
def sampleDevice (id connection endpoint address source via : String) : Device where
  id := id.toList
  name := id.toList
  displayName := id.toList
  printerType := []
  connectionType := connection.toList
  protocol := if connection = "spooler" then "spooler" else "raw"
  endpoint := endpoint.toList
  spoolerName := if connection = "spooler" then endpoint.toList else []
  spoolerServer := []
  spoolerPort := []
  spoolerDriver := []
  spoolerShare := []
  usbVid := []
  usbPid := []
  usbSerial := []
  networkAddress := address.toList
  port := 9100
  status := "unknown"
  enabled := false
  isVirtual := false
  type := []
  capabilities := (Keyed.empty.put "registration_source".toList (.str source.toList)).put "discovered_via".toList
    (.str via.toList)

/-- The row of an operator. -/
def operatorRow : Device := sampleDevice "pos" "network" "192.168.1.20:9100" "192.168.1.20" "manual" "none"

/-- A scan finds the printer of the operator where it is, or at another address. -/
def sightingAt (address : String) : Device :=
  sampleDevice "pos" "network" (address ++ ":9100") address "discovery" "mdns"

/-- A queue that the spooler reported. -/
def sampleQueue (name : String) : Device := sampleDevice name "spooler" name "" "discovery" "windows_spooler"

def spoolerComplete : Keyed Text Bool := Keyed.empty.put "windows_spooler" true

/-- A complete scan that finds the printer at another address. -/
def sampleCall : RegistryCall where
  observed := [sightingAt "192.168.1.99"]
  completeSources := spoolerComplete
  cleaned := true
  saved := true

theorem operatorRow_survives_scan :
    ∃ row ∈ [sampleCall].foldl (fun file call => call.run plainDeviceEnv file) [operatorRow],
      row.id = operatorRow.id ∧ row.capText? "registration_source" = operatorRow.capText? "registration_source" ∧
      row.enabled = operatorRow.enabled := by
  obtain ⟨operator, loads, merged⟩ : isOperatorRegisteredDevice operatorRow = true ∧
      (loadRow plainDeviceEnv operatorRow).isSome = true ∧ (sampleCall.unsaved plainDeviceEnv [operatorRow]).all
        (fun row => isVirtualDevice plainDeviceEnv row = false ∧ (loadRow plainDeviceEnv row).isSome = true) = true := by
    decide +kernel
  have kept : MergesKept plainDeviceEnv operatorRow [operatorRow] [sampleCall] :=
    ⟨fun _ row member _ => of_decide_eq_true (List.all_eq_true.mp merged row member), trivial⟩
  exact operatorRow_survives List.mem_cons_self operator loads kept

/-! ### The transport of an operator's row -/

/-- Where the bytes of a device go. -/
def Device.transport (d : Device) : Text × Text × Text × Text × Text × ℤ :=
  (d.endpoint, d.connectionType, d.protocol, d.type, d.networkAddress, d.port)

/-- The last row with an id, which the id stands for. -/
def rowOf (rows : List Device) (id : Text) : Option Device := rows.reverse.find? fun row => row.id = id

theorem rowOf_eq_some {rows : List Device} {id : Text} (found : rowOf rows id = some r) :
    ∃ before after, rows = before ++ r :: after ∧ r.id = id ∧ ∀ row ∈ after, row.id ≠ id := by
  obtain ⟨named, front, back, split, others⟩ := List.find?_eq_some_iff_append.mp found
  refine ⟨back.reverse, front.reverse, ?_, by simpa using named, fun row member => ?_⟩
  · rw [← List.reverse_reverse rows, split]
    simp
  · simpa using others row (List.mem_reverse.mp member)

theorem rowOf_of_split {id : Text} (named : r.id = id) (others : ∀ row ∈ after, row.id ≠ id) :
    rowOf (before ++ r :: after) id = some r := by
  have none : after.reverse.find? (fun row => row.id = id) = none := by
    rw [List.find?_eq_none]
    intro row member
    simpa using others row (List.mem_reverse.mp member)
  rw [rowOf, List.reverse_append, List.reverse_cons, List.append_assoc, List.find?_append, none]
  simp [named]

/-- The id of a row leads to its place. -/
theorem byID_ofRows (filled : r.id ≠ []) (others : ∀ row ∈ after, row.id ≠ r.id) :
    (Inventory.ofRows (before ++ r :: after)).byID.find? r.id = some before.length := by
  rw [Inventory.ofRows, List.zipIdx_append, List.foldl_append, List.zipIdx_cons, List.foldl_cons]
  simp only [if_neg filled, Nat.zero_add]
  refine foldl_keeps (fun byID : Keyed Text ℕ => byID.find? r.id = some before.length)
    (Keyed.find?_put_self _ _ _) fun byID entry listed found => ?_
  have different : r.id ≠ entry.1.id := (others entry.1 (List.fst_mem_of_mem_zipIdx listed)).symm
  split
  · exact found
  · rw [Keyed.find?_put_of_ne _ _ different, found]

theorem modify_length_append (before : List Device) (r : Device) (after : List Device) (f : Device → Device) :
    (before ++ r :: after).modify before.length f = before ++ f r :: after := by
  induction before with
  | nil => rfl
  | cons first before ih => exact congrArg (first :: ·) ih

section Transport

variable {env : DeviceEnv} {r d : Device}

theorem isOperator_preserved (operator : isOperatorRegisteredDevice r = true) :
    isOperatorRegisteredDevice (preserveRegistryObservationEvidence env r d) = true := by
  rw [isOperatorRegisteredDevice, capText?_keepOperatorSource operator rfl]
  exact operator

/-- The evidence step makes an observation outrank the row of the operator. -/
theorem selectsIncoming_preserved (operator : isOperatorRegisteredDevice r = true) :
    selectsIncoming r (preserveRegistryObservationEvidence env r d) = decide (d.endpoint ≠ []) := by
  rw [selectsIncoming]
  simp only [isOperator_preserved operator, Bool.or_true, Bool.not_true, Bool.and_false, Bool.false_and,
    Bool.not_false, Bool.and_true, Bool.true_and]
  rfl

theorem transport_takeTransport (merged incoming : Device) :
    (takeTransport merged incoming).transport = incoming.transport := by
  unfold takeTransport
  split <;> rfl

theorem transport_mergeDeviceInfo (env : DeviceEnv) (selected : selectsIncoming r d = decide (d.endpoint ≠ [])) :
    (mergeDeviceInfo env r d).transport = if d.endpoint = [] then r.transport else d.transport := by
  have filled : ∀ text other : Text, text ≠ [] → orElseText text other = text := fun _ _ filled => if_neg filled
  by_cases empty : d.endpoint = []
  · have same : orElseText r.endpoint d.endpoint = r.endpoint := by
      rw [orElseText, empty]
      split
      · next none => exact none.symm
      · rfl
    rw [if_pos empty]
    dsimp only [mergeDeviceInfo, Device.transport]
    rw [selected, decide_eq_false (not_not_intro empty)]
    exact congrArg (·, r.connectionType, r.protocol, r.type, r.networkAddress, r.port) same
  · have moved := transport_takeTransport (takeNames r d) d
    have endpoint : (takeTransport (takeNames r d) d).endpoint = d.endpoint := congrArg Prod.fst moved
    rw [if_neg empty, ← moved]
    dsimp only [mergeDeviceInfo, Device.transport]
    rw [selected, decide_eq_true empty, if_pos rfl, endpoint, filled _ _ empty]

theorem isSpoolerDevice_of_spooler (named : d.connectionType = "spooler" ∨ d.protocol = "spooler") :
    isSpoolerDevice d = true := by
  have folds : equalFold (trimSpace "spooler") "spooler" = true := by decide
  have filled : trimSpace "spooler" ≠ [] := by decide
  obtain connection | protocol := named
  · simp only [isSpoolerDevice, connection, if_neg filled, folds, Bool.or_true, Bool.true_or]
  · simp only [isSpoolerDevice, protocol, folds, Bool.true_or]

theorem transport_mergeObservation (env : DeviceEnv) (operator : isOperatorRegisteredDevice r = true)
    (direct : isSpoolerDevice d = false) :
    (mergeObservation env r d).transport = if d.endpoint = [] then r.transport else d.transport := by
  have noQueue : ¬((preserveRegistryObservationEvidence env r d).connectionType = "spooler" ∨
      (preserveRegistryObservationEvidence env r d).protocol = "spooler") := by
    intro named
    have spooler := isSpoolerDevice_of_spooler (d := d) named
    rw [direct] at spooler
    cases spooler
  dsimp only [mergeObservation]
  rw [if_neg noQueue]
  exact transport_mergeDeviceInfo env (selectsIncoming_preserved operator)

/-- An automatic observation of the printer that an operator registered. -/
structure Sighted (env : DeviceEnv) (file : List Device) (r d : Device) : Prop where
  stored : rowOf (loadRegistry env file).1 d.id = some r
  operator : isOperatorRegisteredDevice r = true
  filled : d.id ≠ []
  valid : isValidDiscoveredPrinter env (discoveredDeviceNames d) = true
  managed : isManagedPrinter env (discoveredDeviceNames d) = true
  automatic : d.capText? "registration_source" = some "discovery".toList
  direct : isSpoolerDevice d = false

variable {file : List Device} (sighted : Sighted env file r d) (completeSources : Keyed Text Bool)

include sighted

/-- A call with one observation of a stored id merges the row of that id. -/
theorem rowOf_reconcile : rowOf (reconcileDiscoveryRegistry env file [d] completeSources) d.id =
    some (mergeObservation env r (discoveredDeviceNames d)) := by
  obtain ⟨before, after, split, named, others⟩ := rowOf_eq_some sighted.stored
  have marked : markAutomaticDiscoveryRegistration d = d := by
    unfold markAutomaticDiscoveryRegistration
    split
    · rw [withRegistrationSource, Keyed.insert_of_taken _ (capText?_eq_some sighted.automatic)]
    · rfl
  have identity : identified env d = discoveredDeviceNames d := if_neg sighted.filled
  have place : (Inventory.ofRows (before ++ r :: after)).byID.find? d.id = some before.length := by
    rw [← named] at others ⊢
    exact byID_ofRows (named ▸ sighted.filled) others
  have observed : ((Inventory.ofRows (before ++ r :: after)).observe env d).rows =
      before ++ mergeObservation env r (discoveredDeviceNames d) :: after := by
    have continued : (Inventory.ofRows (before ++ r :: after)).continued env (discoveredDeviceNames d) =
        some (discoveredDeviceNames d) :=
      if_pos (by rw [show (discoveredDeviceNames d).id = d.id from rfl, place]; rfl)
    dsimp only [Inventory.observe]
    rw [identity, sighted.valid, sighted.managed, if_neg (by simp), continued]
    dsimp only [Inventory.merge]
    rw [show (discoveredDeviceNames d).id = d.id from rfl, place]
    exact modify_length_append before r after _
  have same := sameRow_mergeObservation env (discoveredDeviceNames d) sighted.operator
  have spared : shouldPruneMissingDiscoveryRow env (mergeObservation env r (discoveredDeviceNames d)) [d]
      completeSources = false := by
    rw [shouldPruneMissingDiscoveryRow, isAutoDiscoveredSpoolerRow, same.isOperator sighted.operator]
    simp
  rw [reconcileDiscoveryRegistry, reconcileRows, split]
  simp only [List.map_cons, List.map_nil, marked, List.foldl_cons, List.foldl_nil, observed, List.filter_append]
  rw [List.filter_cons_of_pos (by rw [spared]; rfl)]
  exact rowOf_of_split (same.id.trans named) fun row member => others row (List.mem_of_mem_filter member)

/-- The row of the operator takes the transport of an observation that names an endpoint. -/
theorem exists_rowOf_reconcile :
    ∃ row, rowOf (reconcileDiscoveryRegistry env file [d] completeSources) d.id = some row ∧
      row.transport = if d.endpoint = [] then r.transport else d.transport :=
  ⟨_, rowOf_reconcile sighted completeSources, transport_mergeObservation env sighted.operator sighted.direct⟩

omit sighted

/-- An automatic observation leaves the transport of an operator's row alone exactly when it names no endpoint or
the very same transport. -/
theorem transport_kept_iff {file : List Device} {completeSources : Keyed Text Bool}
    (stored : rowOf (loadRegistry env file).1 d.id = some r) (operator : isOperatorRegisteredDevice r = true)
    (filled : d.id ≠ []) (valid : isValidDiscoveredPrinter env (discoveredDeviceNames d) = true)
    (managed : isManagedPrinter env (discoveredDeviceNames d) = true)
    (automatic : d.capText? "registration_source" = some "discovery".toList) (direct : isSpoolerDevice d = false) :
    (∃ row, rowOf (reconcileDiscoveryRegistry env file [d] completeSources) d.id = some row ∧
      row.transport = r.transport) ↔ d.endpoint = [] ∨ d.transport = r.transport := by
  obtain ⟨merged, found, moved⟩ := exists_rowOf_reconcile
    ⟨stored, operator, filled, valid, managed, automatic, direct⟩ completeSources
  rw [found]
  simp only [Option.some.injEq, exists_eq_left', moved]
  by_cases empty : d.endpoint = []
  · simp only [empty, if_true, true_or]
  · simp only [empty, if_false, false_or]

end Transport

/-- A scan that sees the printer of the operator. -/
theorem sighted_sample : ∀ address ∈ ["192.168.1.20", "192.168.1.99"],
    ∃ r, Sighted plainDeviceEnv [operatorRow] r (sightingAt address) ∧ r.connectionType = "network" ∧
      r.endpoint ≠ [] ∧ r.transport = operatorRow.transport := by
  intro address listed
  have loaded : ∀ address ∈ ["192.168.1.20", "192.168.1.99"], (sightingAt address).id ≠ [] ∧
      isValidDiscoveredPrinter plainDeviceEnv (discoveredDeviceNames (sightingAt address)) = true ∧
      isManagedPrinter plainDeviceEnv (discoveredDeviceNames (sightingAt address)) = true ∧
      (sightingAt address).capText? "registration_source" = some "discovery".toList ∧
      isSpoolerDevice (sightingAt address) = false ∧
      (rowOf (loadRegistry plainDeviceEnv [operatorRow]).1 (sightingAt address).id).any (fun r =>
        isOperatorRegisteredDevice r = true ∧ r.connectionType = "network".toList ∧ r.endpoint ≠ [] ∧
          r.transport = operatorRow.transport) = true := by decide +kernel
  obtain ⟨filled, valid, managed, automatic, direct, stored⟩ := loaded address listed
  obtain ⟨r, stored, row⟩ := (Option.any_eq_true _ _).mp stored
  obtain ⟨operator, placed⟩ := of_decide_eq_true row
  exact ⟨r, ⟨stored, operator, filled, valid, managed, automatic, direct⟩, placed⟩

theorem transport_kept_by_sighting : ∃ row, rowOf (reconcileDiscoveryRegistry plainDeviceEnv [operatorRow]
    [sightingAt "192.168.1.20"] spoolerComplete) (sightingAt "192.168.1.20").id = some row ∧
      row.transport = operatorRow.transport := by
  obtain ⟨r, sighted, -, -, placed⟩ := sighted_sample "192.168.1.20" List.mem_cons_self
  have same : (sightingAt "192.168.1.20").transport = operatorRow.transport := by decide +kernel
  rw [← placed]
  exact (transport_kept_iff sighted.stored sighted.operator sighted.filled sighted.valid sighted.managed
    sighted.automatic sighted.direct).mpr (.inr (same.trans placed.symm))

/-- A sighting at another address moves the printer of the operator there. -/
theorem exists_transport_replaced : ¬∀ {env : DeviceEnv} {file : List Device} {completeSources : Keyed Text Bool}
    {r d : Device}, rowOf (loadRegistry env file).1 d.id = some r → isOperatorRegisteredDevice r = true →
      r.connectionType ∈ ["network".toList, "usb"] → r.endpoint ≠ [] → d.id ≠ [] →
      isValidDiscoveredPrinter env (discoveredDeviceNames d) = true →
      isManagedPrinter env (discoveredDeviceNames d) = true →
      d.capText? "registration_source" = some "discovery".toList → isSpoolerDevice d = false →
      ∃ row, rowOf (reconcileDiscoveryRegistry env file [d] completeSources) d.id = some row ∧
        row.transport = r.transport := by
  intro kept
  obtain ⟨r, sighted, network, endpoint, placed⟩ := sighted_sample "192.168.1.99" (by decide)
  have different : (sightingAt "192.168.1.99").endpoint ≠ [] ∧
      (sightingAt "192.168.1.99").transport ≠ operatorRow.transport := by decide +kernel
  obtain ⟨merged, found, moved⟩ := exists_rowOf_reconcile sighted .empty
  obtain ⟨row, isRow, same⟩ := kept sighted.stored sighted.operator (network ▸ List.mem_cons_self) endpoint
    sighted.filled sighted.valid sighted.managed sighted.automatic sighted.direct
  rw [found, Option.some.injEq] at isRow
  rw [← isRow, moved, if_neg different.1, placed] at same
  exact different.2 same

/-! ### Pruning -/

section Pruning

variable {env : DeviceEnv} {observed file : List Device} {row : Device}

theorem find?_info (d : Device) (key : Text) :
    (d.info env).capabilities.find? key = (d.capabilities.find? key).map env.sprint := by
  rw [Keyed.find?, Keyed.find?, Device.info, List.find?_map, Option.map_map, Option.map_map]
  rfl

/-- The source of a registration is no part of an identity. -/
theorem capabilityIdentityValue_source (d : Device) (source : String) (keys : List String)
    (unnamed : "registration_source" ∉ keys) :
    capabilityIdentityValue env.toIdentityEnv ((withRegistrationSource d source).info env) keys =
      capabilityIdentityValue env.toIdentityEnv (d.info env) keys := by
  have lookup : ∀ key ∈ keys, ((withRegistrationSource d source).info env).capabilities.find? key.toList =
      (d.info env).capabilities.find? key.toList := by
    intro key listed
    have different : key.toList ≠ "registration_source" := by
      intro same
      rw [String.toList_inj.mp same] at listed
      exact unnamed listed
    rw [find?_info, find?_info]
    exact congrArg (Option.map env.sprint) (Keyed.find?_insert_of_ne _ _ different)
  rw [capabilityIdentityValue, capabilityIdentityValue, ← List.head?_filterMap, ← List.head?_filterMap,
    List.filterMap_congr fun key listed => by rw [lookup key listed]]

theorem physicalIdentity_source (d : Device) (source : String) :
    (withRegistrationSource d source).physicalIdentity env = d.physicalIdentity env := by
  have value := @capabilityIdentityValue_source env d source
  have queue : spoolerKey env.toIdentityEnv ((withRegistrationSource d source).info env) =
      spoolerKey env.toIdentityEnv (d.info env) := by
    rw [spoolerKey, value ["port_name"] (by decide), value ["driver_name"] (by decide)]
    rfl
  rw [Device.physicalIdentity, physicalIdentityKey, value ["uuid", "printer_uuid"] (by decide),
    value ["serial"] (by decide), value ["mac", "mac_address", "macAddress"] (by decide),
    value ["manufacturer"] (by decide), value ["model"] (by decide), queue]
  rfl

theorem sameSpoolerQueue_source (stored d : Device) (source : String) :
    sameSpoolerQueueDuringDetailLoss env stored (withRegistrationSource d source) =
      sameSpoolerQueueDuringDetailLoss env stored d := by
  have value : ∀ key : String, "registration_source" ≠ key →
      (withRegistrationSource d source).identityValue env key = d.identityValue env key :=
    fun key different => capabilityIdentityValue_source d source [key] (by simpa using different)
  have details : spoolerDetails env (withRegistrationSource d source) = spoolerDetails env d := by
    rw [spoolerDetails, spoolerDetailValue, spoolerDetailValue, spoolerDetailValue,
      value "spooler_scope" (by decide), value "port_name" (by decide), value "driver_name" (by decide),
      value "share_name" (by decide)]
    rfl
  have server : spoolerDetailValue env (withRegistrationSource d source)
      (withRegistrationSource d source).spoolerServer "server_name" =
        spoolerDetailValue env d d.spoolerServer "server_name" := by
    rw [spoolerDetailValue, value "server_name" (by decide)]
    rfl
  rw [sameSpoolerQueueDuringDetailLoss, server, details, physicalIdentity_source]
  rfl

/-- Marking an observation does not change what it reports. -/
theorem reports_mark (stored d : Device) :
    reports env stored (markAutomaticDiscoveryRegistration d) = reports env stored d := by
  unfold markAutomaticDiscoveryRegistration
  split
  · rw [reports, sameSpoolerQueue_source, physicalIdentity_source]
    rfl
  · rfl

end Pruning

/-! ### Rows that a scan takes over -/

section TakingOver

variable {env : DeviceEnv} {s next : Inventory} {touched : Text → Prop} {r d prior : Device} {index : ℕ}

/-- The table of ids points to rows that have them. -/
def Inventory.Indexed (s : Inventory) : Prop :=
  ∀ id index, s.byID.find? id = some index → ∃ row, s.rows[index]? = some row ∧ row.id = id

/-- The rows with other ids than the touched ones are the same, and the table loses no id. -/
structure Inventory.Changes (s next : Inventory) (touched : Text → Prop) : Prop where
  indexed : next.Indexed
  found : ∀ {id}, (s.byID.find? id).isSome = true → (next.byID.find? id).isSome = true
  kept : ∀ {row}, row ∈ s.rows → touched row.id ∨ row ∈ next.rows
  old : ∀ {row}, row ∈ next.rows → touched row.id ∨ row ∈ s.rows

/-- An observation touches the rows with its id; one with an unknown id also those with the id of a row it reports. -/
def Inventory.Touches (env : DeviceEnv) (s : Inventory) (d : Device) (id : Text) : Prop :=
  id = d.id ∨ s.byID.find? d.id = none ∧ ∃ row ∈ s.rows, row.id = id ∧ reports env row d = true

theorem isSome_find?_put (table : Keyed Text ℕ) {key other : Text} (value : ℕ)
    (found : (table.find? other).isSome = true) : ((table.put key value).find? other).isSome = true := by
  rw [Keyed.find?_put]
  split
  · rfl
  · exact found

/-- A row is modified, and the table may point to it. -/
theorem Inventory.Indexed.modify (indexed : s.Indexed) {byID : Keyed Text ℕ} {f : Device → Device}
    (held : s.rows[index]? = some prior) (named : ∀ row, (f row).id = row.id) (touches : touched prior.id)
    (lookup : byID = s.byID ∨ byID = s.byID.put prior.id index) :
    s.Changes ⟨s.rows.modify index f, byID⟩ touched := by
  have after : ∀ {row i}, s.rows[i]? = some row →
      (s.rows.modify index f)[i]? = some (if index = i then f row else row) := by
    intro row i held
    rw [List.getElem?_modify, held]
    rfl
  refine ⟨fun id i found => ?_, fun found => ?_, fun member => ?_, fun member => ?_⟩
  · have points : ∃ row, s.rows[i]? = some row ∧ row.id = id := by
      obtain rfl | rfl := lookup
      · exact indexed _ _ found
      · rw [Keyed.find?_put] at found
        split at found
        · next same =>
          cases found
          exact ⟨prior, held, same.symm⟩
        · exact indexed _ _ found
    obtain ⟨row, at_, same⟩ := points
    refine ⟨_, after at_, ?_⟩
    split
    · exact (named row).trans same
    · exact same
  · obtain rfl | rfl := lookup
    · exact found
    · exact isSome_find?_put _ _ found
  · obtain ⟨i, at_⟩ := List.mem_iff_getElem?.mp member
    by_cases same : index = i
    · rw [← same, held, Option.some.injEq] at at_
      exact .inl (at_ ▸ touches)
    · exact .inr (List.mem_iff_getElem?.mpr ⟨i, by rw [after at_, if_neg same]⟩)
  · obtain ⟨i, at_⟩ := List.mem_iff_getElem?.mp member
    rw [List.getElem?_modify] at at_
    obtain ⟨stored, before, rfl⟩ := Option.map_eq_some_iff.mp at_
    by_cases same : index = i
    · rw [← same, held, Option.some.injEq] at before
      rw [if_pos same, named, ← before]
      exact .inl touches
    · rw [if_neg same]
      exact .inr (List.mem_iff_getElem?.mpr ⟨i, before⟩)

theorem Inventory.Indexed.append (indexed : s.Indexed) (touches : touched d.id) :
    s.Changes ⟨s.rows ++ [d], s.byID.put d.id s.rows.length⟩ touched where
  indexed _ _ found := by
    rw [Keyed.find?_put] at found
    split at found
    · next same =>
      cases found
      exact ⟨d, List.getElem?_concat_length, same.symm⟩
    · obtain ⟨row, held, same⟩ := indexed _ _ found
      exact ⟨row, by rw [List.getElem?_append_left (List.getElem?_eq_some_iff.mp held).1, held], same⟩
  found := isSome_find?_put _ _
  kept member := .inr (List.mem_append_left _ member)
  old member := by
    obtain member | member := List.mem_append.mp member
    · exact .inr member
    · rw [List.mem_singleton.mp member]
      exact .inl touches

theorem Inventory.Indexed.unchanged (indexed : s.Indexed) : s.Changes s touched :=
  ⟨indexed, id, .inr, .inr⟩

theorem id_mergeObservation (env : DeviceEnv) (prior d : Device) : (mergeObservation env prior d).id = prior.id := by
  have same := (mergeDeviceInfo_frame env prior (preserveRegistryObservationEvidence env prior d)).1
  dsimp only [mergeObservation]
  split <;> exact same

/-- An observation under its own id or that of a row it reports, with its evidence. -/
theorem Inventory.Indexed.merge (indexed : s.Indexed) {observed : Device} (touches : touched observed.id)
    (identity : s.byID.find? observed.id = none → ∀ row ∈ s.rows,
      (row.physicalIdentity env).isSome = true → row.physicalIdentity env = observed.physicalIdentity env →
        touched row.id) :
    s.Changes (s.merge env observed) touched := by
  unfold Inventory.merge
  cases found : s.byID.find? observed.id with
  | some index =>
    obtain ⟨row, held, same⟩ := indexed _ _ found
    exact indexed.modify held (fun row => id_mergeObservation env row observed) (same ▸ touches) (.inl rfl)
  | none =>
    cases same : s.identified? env observed with
    | none => exact indexed.append touches
    | some index =>
      obtain ⟨key, shown, first⟩ := Option.bind_eq_some_iff.mp same
      obtain ⟨bound, matched, -⟩ := List.findIdx?_eq_some_iff_getElem.mp first
      have held := List.getElem?_eq_getElem bound
      have shows := of_decide_eq_true matched
      simp only [held]
      exact indexed.modify held (fun _ => rfl) (identity found _ (List.getElem_mem bound) (by rw [shows]; rfl)
        (shows.trans shown.symm)) (.inr rfl)

theorem id_mark (d : Device) : (markAutomaticDiscoveryRegistration d).id = d.id := by
  unfold markAutomaticDiscoveryRegistration
  split <;> rfl

/-- An observation goes on under its own id, or with an unknown id under that of a row of its queue. -/
theorem of_continued {observed : Device} (continued : s.continued env d = some observed) :
    observed = d ∨ s.byID.find? d.id = none ∧ ∃ prior ∈ s.rows,
      sameSpoolerQueueDuringDetailLoss env prior d = true ∧ observed = { d with id := prior.id } := by
  unfold Inventory.continued at continued
  split at continued
  · exact .inl (Option.some.inj continued).symm
  · next absent =>
    split at continued
    · exact .inl (Option.some.inj continued).symm
    · next prior unique =>
      have listed : prior ∈ s.rows.filter _ := unique ▸ List.mem_singleton_self prior
      obtain ⟨member, facts⟩ := List.mem_filter.mp listed
      exact .inr ⟨by simpa using absent, prior, member, (of_decide_eq_true facts).2, (Option.some.inj continued).symm⟩
    · cases continued

/-- One observation of the scan. -/
theorem Inventory.Indexed.observe (env : DeviceEnv) (indexed : s.Indexed) (named : d.id ≠ []) :
    s.Changes (s.observe env (markAutomaticDiscoveryRegistration d)) (s.Touches env d) := by
  have whole : identified env (markAutomaticDiscoveryRegistration d) =
      discoveredDeviceNames (markAutomaticDiscoveryRegistration d) := if_neg ((id_mark d).symm ▸ named)
  have sameId : (discoveredDeviceNames (markAutomaticDiscoveryRegistration d)).id = d.id := id_mark d
  have same : ∀ row, reports env row (discoveredDeviceNames (markAutomaticDiscoveryRegistration d)) =
      reports env row d := fun row => reports_mark row d
  rw [Inventory.observe, whole]
  generalize discoveredDeviceNames (markAutomaticDiscoveryRegistration d) = marked at sameId same ⊢
  have identity : ∀ row, (row.physicalIdentity env).isSome = true →
      row.physicalIdentity env = marked.physicalIdentity env → reports env row d = true := by
    intro row shown equal
    rw [← same, reports, shown, decide_eq_true equal, Bool.and_self, Bool.or_true]
  split
  · exact indexed.unchanged
  split
  · exact indexed.unchanged
  · next observed continued =>
    obtain rfl | ⟨absent, prior, member, queue, rfl⟩ := of_continued continued
    · exact indexed.merge (.inl sameId) fun absent row member shown equal =>
        .inr ⟨sameId ▸ absent, row, member, rfl, identity row shown equal⟩
    · have reported : reports env prior d = true := by
        rw [← same, reports, queue, Bool.or_true, Bool.true_or]
      exact indexed.merge (.inr ⟨sameId ▸ absent, prior, member, rfl, reported⟩) fun _ row member shown equal =>
        .inr ⟨sameId ▸ absent, row, member, rfl, identity row shown equal⟩

variable {observed rows file live : List Device} {completeSources : Keyed Text Bool}

/-- No observation has the id of the row, and those that report it have ids of the registry. -/
def Untaken (env : DeviceEnv) (rows observed : List Device) (r : Device) : Prop :=
  ∀ d ∈ observed, d.id ≠ r.id ∧ (reports env r d = true → ∃ other ∈ rows, other.id = d.id)

/-- What the observations keep: the ids of the registry, and a row that none of them takes over. -/
structure Inventory.Keeps (env : DeviceEnv) (rows observed : List Device) (r : Device) (s : Inventory) : Prop where
  indexed : s.Indexed
  found : ∀ other ∈ rows, other.id ≠ [] → (s.byID.find? other.id).isSome = true
  stays : Untaken env rows observed r → r ∈ s.rows ∧ ∀ row ∈ s.rows, row.id = r.id → row = r

theorem Inventory.Keeps.observe (keeps : s.Keeps env rows observed r) (listed : d ∈ observed) (named : d.id ≠ []) :
    (s.observe env (markAutomaticDiscoveryRegistration d)).Keeps env rows observed r := by
  have changes := keeps.indexed.observe env named
  refine ⟨changes.indexed, fun other known filled => changes.found (keeps.found other known filled), fun untaken => ?_⟩
  obtain ⟨member, unique⟩ := keeps.stays untaken
  have untouched : ¬s.Touches env d r.id := by
    rintro (same | ⟨absent, row, stored, same, reported⟩)
    · exact (untaken d listed).1 same.symm
    · obtain ⟨other, known, same⟩ := (untaken d listed).2 (unique row stored same ▸ reported)
      have present := keeps.found other known (same ▸ named)
      rw [same, absent] at present
      cases present
  exact ⟨(changes.kept member).resolve_left untouched, fun row listed same =>
    unique row ((changes.old listed).resolve_left (same ▸ untouched)) same⟩

end TakingOver

end PrintGateway.Agent
