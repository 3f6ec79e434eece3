import PrintGateway.Model.Odoo.Routing

/-!
# Routes and the outbox

The router takes the configuration of the root of the company tree, the outbox that of the direct parent.
They agree for root companies and their branches only.
-/

namespace PrintGateway.Odoo

open Machine

namespace CompanyTree

variable (tree : CompanyTree)

/-- The root has no parent. -/
theorem parent_root (company : ℕ) : tree.parent (tree.root company) = none := by
  fun_induction tree.root company with
  | case1 company above => exact above
  | case2 company up above ih => exact ih

theorem root_of_parent {company up : ℕ} (above : tree.parent company = some up) :
    tree.root company = tree.root up := by
  rw [root]
  split
  · next none => simp [above] at none
  · next other same =>
    rw [above] at same
    rw [Option.some.inj same]

theorem root_eq_iff (company : ℕ) : tree.root company = company ↔ tree.parent company = none := by
  constructor
  · intro same
    rw [← same]
    exact tree.parent_root company
  · intro top
    rw [root]
    split
    · rfl
    · next up above => simp [top] at above

/-- The parent is the root for companies at most one level below a root. -/
theorem root_eq_parent_iff (company : ℕ) : tree.root company = (tree.parent company).getD company ↔
    ∀ up, tree.parent company = some up → tree.parent up = none := by
  cases above : tree.parent company with
  | none => simpa using (tree.root_eq_iff company).mpr above
  | some up =>
    rw [tree.root_of_parent above]
    simpa using tree.root_eq_iff up

end CompanyTree

namespace RoutingDb

variable {db : RoutingDb} {request : RouteRequest} {route : Route}

/-- The configuration of a route is that of the root company. -/
theorem config_of_resolveBinding (resolved : db.resolveBinding request = .ok (.routed route)) :
    route.config.company = db.tree.root request.envCompany := by
  have found : db.gatewayConfig request.envCompany = some route.config := by
    unfold resolveBinding at resolved
    obtain ⟨_, -, resolved⟩ := exists_of_bind_eq_ok resolved
    cases configured : db.gatewayConfig request.envCompany with
    | none => simp [configured] at resolved
    | some config =>
      simp only [configured] at resolved
      obtain ⟨documentType, -, resolved⟩ := exists_of_bind_eq_ok resolved
      obtain ⟨destination, -, resolved⟩ := exists_of_bind_eq_ok resolved
      obtain ⟨selected, -, resolved⟩ := exists_of_bind_eq_ok resolved
      cases selected with
      | none =>
        simp only at resolved
        split at resolved <;> cases resolved
      | some binding =>
        simp only at resolved
        split at resolved <;> cases resolved
        rfl
  obtain ⟨listed, -⟩ := Option.filter_eq_some_iff.mp found
  simpa using List.find?_some listed

/-- The outbox accepts the job of a resolved route exactly when the company is a root or a branch of a root. -/
theorem createOperation_submitRoute_iff (resolved : db.resolveBinding request = .ok (.routed route)) :
    db.tree.createOperation request.envCompany (submitRoute request.envCompany route) = .ok () ↔
      ∀ up, db.tree.parent request.envCompany = some up → db.tree.parent up = none := by
  rw [← db.tree.root_eq_parent_iff, ← config_of_resolveBinding resolved]
  dsimp only [CompanyTree.createOperation, submitRoute]
  rw [if_neg (not_not.mpr rfl)]
  split
  · next foreign => simpa using foreign
  · next own => simpa using own

/-- Company 2 is a branch of company 1, which is a branch of company 0. -/
def sampleTree : CompanyTree where
  parent company := if company = 0 ∨ 2 < company then none else some (company - 1)
  depth company := company
  depth_lt {company up} above := by
    split at above
    · cases above
    · obtain rfl := Option.some.inj above
      omega

def sampleReport : ReportAction := ⟨7, "res.partner", "partner_label"⟩

/-- A company-wide binding for a report. -/
def sampleBinding : Binding where
  id := 1
  company := 0
  branch := none
  enabled := true
  priority := 10
  destinationRef := some sampleReport.destination
  documentType := "report:partner_label"
  report := some 7
  runtimeAgentId := "agent"
  printerId := "printer"
  printerProtocol := .spooler

def sampleDb : RoutingDb where
  tree := sampleTree
  configs := [⟨1, 0, true⟩]
  bindings := [sampleBinding]
  assignments := [⟨0, none, "agent", true⟩]
  destinationCompany _ := none

def sampleRequest (company : ℕ) : RouteRequest where
  envCompany := company
  company := none
  report := some sampleReport
  record := none
  documentType := none
  explicitDestination := none
  explicitBinding := none
  protocol := none
  payloadType := some .pdf
  raiseIfNotFound := true

def sampleRoute (branch : ℕ) : Route where
  config := ⟨1, 0, true⟩
  binding := sampleBinding
  documentType := "report:partner_label"
  destination := some sampleReport.destination
  company := 0
  branch := some branch

/-- Both branches get the company-wide route. -/
theorem sampleDb_resolveBinding {company : ℕ} (isRoot : sampleTree.root company = 0)
    (below : company = 1 ∨ company = 2) :
    sampleDb.resolveBinding (sampleRequest company) = .ok (.routed (sampleRoute company)) := by
  have configured : sampleDb.gatewayConfig company = some ⟨1, 0, true⟩ := by
    unfold gatewayConfig
    rw [show sampleDb.tree.root company = 0 from isRoot]
    rfl
  have within : sampleDb.tree.bindingScope company = (0, some company) := by
    unfold CompanyTree.bindingScope
    rw [show sampleDb.tree.root company = 0 from isRoot]
    obtain rfl | rfl := below <;> rfl
  unfold resolveBinding selectBinding
  dsimp only [sampleRequest]
  rw [configured, within]
  obtain rfl | rfl := below <;> decide +kernel

theorem sampleTree_root_one : sampleTree.root 1 = 0 :=
  (sampleTree.root_of_parent rfl).trans ((sampleTree.root_eq_iff 0).mpr rfl)

theorem createOperation_submitRoute_branch :
    sampleDb.tree.createOperation 1 (submitRoute 1 (sampleRoute 1)) = .ok () :=
  (createOperation_submitRoute_iff (sampleDb_resolveBinding sampleTree_root_one (.inl rfl))).mpr (by
    intro up above
    obtain rfl : 0 = up := Option.some.inj above
    rfl)

/-- The route of a branch of a branch is refused. -/
theorem exists_route_refused : ∃ (db : RoutingDb) (request : RouteRequest) (route : Route),
    db.resolveBinding request = .ok (.routed route) ∧
      db.tree.createOperation request.envCompany (submitRoute request.envCompany route) =
        .error .foreignConfiguration :=
  ⟨sampleDb, sampleRequest 2, sampleRoute 2,
    sampleDb_resolveBinding ((sampleTree.root_of_parent rfl).trans sampleTree_root_one) (.inr rfl),
    by decide +kernel⟩

end RoutingDb

end PrintGateway.Odoo
