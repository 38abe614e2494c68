import Hostpin.Alerting.Engine

/-!
# The stored alert rules and their administration

The administrator saves and deletes alert rules; the engine works on a copy of the stored rules
that it replaces when it loads them.  `AlertSystem` is the pair of the table of rules and the
engine.  Every stored rule has passed `validateAlertRule`, and so has every rule of the engine;
the structure carries both facts.

* `handleAdminSaveAlertRule` normalises, validates and stores a rule, new or edited.
* `handleAdminDeleteAlertRule` removes a rule.
* `AlertSystem.loadRules` copies the stored rules to the engine.
-/

namespace Hostpin

open Clock

/-- A list of names without blanks, empty names and repetitions, in increasing order. -/
def normalizeAgentList (values : List String) : List String :=
  (((values.map Text.trimSpace).filter fun value => value != "").insertionSort
    fun a b => a ≤ b).destutter (· ≠ ·)

/-- The stored rules and the engine. -/
structure AlertSystem where
  engine : Engine := {}
  rules : KeyedTable AlertRule.id := KeyedTable.empty
  /-- The id that the next new rule gets. -/
  nextID : ℤ := 1
  /-- Ids are not used again. -/
  ids_lt : ∀ rule ∈ rules, rule.id < nextID := by simp
  rules_valid : ∀ rule ∈ rules, validateAlertRule rule = .ok () := by simp
  engine_valid : ∀ rule ∈ engine.rules, validateAlertRule rule = .ok () := by simp

/-- A rule as the handler stores it. -/
def normalizeAlertRule (rule : AlertRule) : AlertRule :=
  { rule with
    name := Text.trimSpace rule.name
    scope := { groups := normalizeAgentList rule.scope.groups
               nodeIDs := normalizeAgentList rule.scope.nodeIDs
               excluded := normalizeAgentList rule.scope.excluded } }

/-- A rule that has passed its check. -/
abbrev ValidRule := { rule : AlertRule // validateAlertRule rule = .ok () }

/-- Check a rule. -/
def checkedRule (rule : AlertRule) : Except String ValidRule :=
  match h : validateAlertRule rule with
  | .error message => .error message
  | .ok () => .ok ⟨rule, h⟩

/-- Store a rule: a rule without id is inserted with the next id, another one replaces the stored
rule with its id. -/
def AlertSystem.saveAlertRule (s : AlertSystem) (rule : ValidRule) :
    Except ApiError (AlertSystem × AlertRule) :=
  if rule.val.id = 0 then
    let saved := { rule.val with id := s.nextID }
    .ok ({ s with
      rules := s.rules.upsert saved
      nextID := s.nextID + 1
      ids_lt := by
        intro r hr
        rcases KeyedTable.mem_upsert.mp hr with rfl | ⟨hr, -⟩
        · exact lt_add_one _
        · exact (s.ids_lt r hr).trans (lt_add_one _)
      rules_valid := by
        intro r hr
        rcases KeyedTable.mem_upsert.mp hr with rfl | ⟨hr, -⟩
        · exact rule.property
        · exact s.rules_valid r hr }, saved)
  else if hid : rule.val.id ∈ s.rules.rows.map AlertRule.id then
    .ok ({ s with
      rules := s.rules.upsert rule.val
      ids_lt := by
        intro r hr
        rcases KeyedTable.mem_upsert.mp hr with rfl | ⟨hr, -⟩
        · obtain ⟨old, hold, heq⟩ := List.mem_map.mp hid
          rw [← heq]
          exact s.ids_lt old hold
        · exact s.ids_lt r hr
      rules_valid := by
        intro r hr
        rcases KeyedTable.mem_upsert.mp hr with rfl | ⟨hr, -⟩
        · exact rule.property
        · exact s.rules_valid r hr }, rule.val)
  else .error ⟨404, "alert_rule_not_found", "alert rule was not found"⟩

/-- Save a rule.  The arguments say which nodes can be read and whether the store can write. -/
def AlertSystem.handleAdminSaveAlertRule (s : AlertSystem) (rule : AlertRule)
    (getNode : String → Bool) (storeOK : Bool) : Except ApiError (AlertSystem × AlertRule) :=
  match checkedRule (normalizeAlertRule rule) with
  | .error message => .error ⟨400, "invalid_alert_rule", message⟩
  | .ok rule =>
    if (rule.val.scope.nodeIDs ++ rule.val.scope.excluded).all getNode then
      if storeOK then s.saveAlertRule rule
      else .error ⟨500, "store_error", "could not save alert rule"⟩
    else .error ⟨400, "invalid_alert_node", "alert scope contains an unknown node"⟩

/-- Saving a rule does not reach the engine before the next reload. -/
lemma AlertSystem.engine_of_save {s s' : AlertSystem} {rule saved : AlertRule}
    {getNode : String → Bool} {storeOK : Bool}
    (h : s.handleAdminSaveAlertRule rule getNode storeOK = .ok (s', saved)) :
    s'.engine = s.engine := by
  unfold AlertSystem.handleAdminSaveAlertRule at h
  generalize checkedRule (normalizeAlertRule rule) = checked at h
  cases checked with
  | error message => cases h
  | ok rule =>
    simp only [AlertSystem.saveAlertRule] at h
    split_ifs at h <;> cases h <;> rfl

/-- Delete a rule. -/
def AlertSystem.handleAdminDeleteAlertRule (s : AlertSystem) (id : ℤ) (storeOK : Bool) :
    Except ApiError AlertSystem :=
  if !storeOK then .error ⟨500, "store_error", "could not delete alert rule"⟩
  else if id ∈ s.rules.rows.map AlertRule.id then
    .ok { s with
      rules := s.rules.deleteWhere fun rule => rule.id = id
      ids_lt := fun r hr => s.ids_lt r (KeyedTable.mem_deleteWhere.mp hr).1
      rules_valid := fun r hr => s.rules_valid r (KeyedTable.mem_deleteWhere.mp hr).1 }
  else .error ⟨404, "alert_rule_not_found", "alert rule was not found"⟩

/-- Deleting a rule does not reach the engine before the next reload. -/
lemma AlertSystem.engine_of_delete {s s' : AlertSystem} {id : ℤ} {storeOK : Bool}
    (h : s.handleAdminDeleteAlertRule id storeOK = .ok s') : s'.engine = s.engine := by
  unfold AlertSystem.handleAdminDeleteAlertRule at h
  split_ifs at h
  cases h
  rfl

/-- The rules of the engine after a load are the stored ones. -/
lemma Engine.mem_loadRules (e : Engine) (table : KeyedTable AlertRule.id) {rule : AlertRule} :
    rule ∈ (e.loadRules (some table)).rules ↔ rule ∈ table := by
  simp [Engine.loadRules]

/-- The engine loads the stored rules; it keeps the rules it has when they cannot be read. -/
def AlertSystem.loadRules (s : AlertSystem) (storeOK : Bool) : AlertSystem :=
  { s with
    engine := s.engine.loadRules (if storeOK then some s.rules else none)
    engine_valid := by
      cases storeOK with
      | true => exact fun rule hrule => s.rules_valid rule ((s.engine.mem_loadRules _).mp hrule)
      | false => exact s.engine_valid }

end Hostpin
