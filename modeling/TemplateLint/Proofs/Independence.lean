import TemplateLint.Lint.Engine
import TemplateLint.Proofs.Listing

/-!
# Rules do not interfere

An engine runs its rules side by side: at every stop of the walk each of them has its turn, and what
they find goes into one list. When no two rules have the same name, the rules still have nothing to do
with each other.

* `Reports` says where every diagnostic comes from, rule by rule: `lists_reports` is the order of the
  stops, then of the rules, then of what one rule finds.
* `filter_lintTemplate_rule`: what a rule reports in company is what it reports alone.
* `rules_independent`: both together, and that a change of the other rules never shows in the
  diagnostics of a rule.
-/

namespace TemplateLint.Engine

variable {e : Engine} {file : String}

/-! ### Where a diagnostic comes from -/

/-- The rule runs for the file: it is switched on, and the settings do not silence it there. -/
def Runs (e : Engine) (file : String) (r : Rule) : Prop :=
  r.enabled = true ∧ e.settings.ignores r.id file = false

/-- What becomes of a finding. It gets the name of its rule, the severity that the settings give to this
name or else the rule's own, the file, and the description of the rule as help. -/
def stamp (s : Settings) (file : String) (r : Rule) (f : Finding) : Diagnostic where
  rule := r.info.id
  severity :=
    match s.severity? r.info.id with
    | some severity => severity
    | none => r.info.severity
  message := f.message
  location := ⟨file, f.position.line, f.position.column⟩
  source := f.source
  help := r.info.description

/-- A finding at one stop: the number of its rule in the engine's list, and its number among what this
rule finds there. -/
structure Turn where
  rule : Nat
  finding : Nat
  deriving DecidableEq, Repr

instance : LT Turn := ⟨fun k k' => k.rule < k'.rule ∨ k.rule = k'.rule ∧ k.finding < k'.finding⟩

/-- A finding in a template: the number of the stop, and the turn at this stop. -/
structure Origin where
  stop : Nat
  turn : Turn
  deriving DecidableEq, Repr

instance : LT Origin := ⟨fun k k' => k.stop < k'.stop ∨ k.stop = k'.stop ∧ k.turn < k'.turn⟩

theorem Turn.lt_iff {k k' : Turn} :
    k < k' ↔ k.rule < k'.rule ∨ k.rule = k'.rule ∧ k.finding < k'.finding := Iff.rfl

theorem Origin.lt_iff {k k' : Origin} :
    k < k' ↔ k.stop < k'.stop ∨ k.stop = k'.stop ∧ k.turn < k'.turn := Iff.rfl

instance : Std.Asymm (α := Origin) (· < ·) where
  asymm := by
    intro k k' h h'
    rw [Origin.lt_iff, Turn.lt_iff] at h h'
    omega

/-- The diagnostic belongs to a finding that a rule makes when it is its turn, and the rule runs. -/
def Reports (e : Engine) (t : Template) (source : Source) (file : String) (k : Origin)
    (d : Diagnostic) : Prop :=
  ∃ o r f, t.occurrences[k.stop]? = some o ∧ e.rules[k.turn.rule]? = some r ∧ e.Runs file r ∧
    (r.check source o)[k.turn.finding]? = some f ∧ d = stamp e.settings file r f

/-! ### Rules with different names -/

theorem mem_active_iff {r : Rule} : r ∈ e.active file ↔ r ∈ e.rules ∧ e.Runs file r := by
  simp [active_eq, Runs]

theorem filter_id_eq {rules : List Rule} (h : (rules.map Rule.id).Nodup) {r : Rule}
    (hr : r ∈ rules) : rules.filter (·.id = r.id) = [r] := by
  induction rules with
  | nil => cases hr
  | cons x rules ih =>
    rw [List.map_cons, List.nodup_cons] at h
    rcases List.mem_cons.mp hr with rfl | hr
    · -- no rule behind the first one has its name
      have hrest : rules.filter (·.id = r.id) = [] := by
        rw [List.filter_eq_nil_iff]
        intro y hy hid
        exact h.1 (of_decide_eq_true hid ▸ List.mem_map_of_mem hy)
      rw [List.filter_cons_of_pos (by simp), hrest]
    · have hne : x.id ≠ r.id := by
        intro hid
        exact h.1 (hid ▸ List.mem_map_of_mem hr)
      rw [List.filter_cons_of_neg (by simpa using hne), ih h.2 hr]

theorem help_eq {rules : List Rule} (h : (rules.map Rule.id).Nodup) {r : Rule} (hr : r ∈ rules) :
    help rules r = r.info.description := by
  -- the first rule of this name is the only one
  rw [help, ← List.head?_filter, filter_id_eq h hr]
  rfl

theorem nodup_active (h : (e.rules.map Rule.id).Nodup) : ((e.active file).map Rule.id).Nodup :=
  h.sublist (List.filter_sublist.map _)

theorem diagnose_eq_stamp (h : (e.rules.map Rule.id).Nodup) {r : Rule} (hr : r ∈ e.active file) :
    e.diagnose file (help (e.active file) r) r = stamp e.settings file r := by
  funext f
  rw [help_eq (nodup_active h) hr]
  unfold diagnose stamp severity
  cases hs : e.settings.severity? r.info.id <;> simp [Rule.id, hs]

/-- Each rule that runs has its turn at each stop. -/
theorem lintTemplate_eq_stamp (h : (e.rules.map Rule.id).Nodup) (t : Template) (source : Source) :
    e.lintTemplate t source file = t.occurrences.flatMap fun o =>
      (e.active file).flatMap fun r => (r.check source o).map (stamp e.settings file r) := by
  rw [lintTemplate_eq_reportsOf, reportsOf]
  refine List.flatMap_congr fun o _ => List.flatMap_congr fun r hr => ?_
  rw [diagnose_eq_stamp h hr]

/-! ### The order of the diagnostics -/

theorem lists_active (e : Engine) (file : String) :
    Lists (fun (i : Nat) r => e.rules[i]? = some r ∧ e.Runs file r) (e.active file) := by
  rw [active_eq]
  refine ((lists_getElem e.rules).filter _).congr fun i r => ?_
  simp [Runs]

/-- The diagnostics come in the order of the stops, then of the rules, then of what one rule finds. -/
theorem lists_reports (h : (e.rules.map Rule.id).Nodup) (t : Template) (source : Source)
    (file : String) :
    Lists (e.Reports t source file) (e.lintTemplate t source file) := by
  rw [lintTemplate_eq_stamp h]
  -- at one stop the turns come in the order of the rules, and each turn in the order of its findings
  have hturns : ∀ o, Lists (fun (k : Turn) d => ∃ r f, e.rules[k.rule]? = some r ∧ e.Runs file r ∧
      (r.check source o)[k.finding]? = some f ∧ d = stamp e.settings file r f)
      ((e.active file).flatMap fun r => (r.check source o).map (stamp e.settings file r)) := by
    intro o
    have hl := (lists_active e file).flatMap Turn.mk (fun _ _ _ _ hlt => Or.inl hlt)
      (fun _ _ _ hlt => Or.inr ⟨rfl, hlt⟩)
      fun _ r _ => (lists_getElem (r.check source o)).map (stamp e.settings file r)
    refine hl.congr ?_
    rintro ⟨i, j⟩ d
    constructor
    · rintro ⟨i, r, j, ⟨hr, hruns⟩, ⟨f, hf, rfl⟩, heq⟩
      cases heq
      exact ⟨r, f, hr, hruns, hf, rfl⟩
    · rintro ⟨r, f, hr, hruns, hf, rfl⟩
      exact ⟨i, r, j, ⟨hr, hruns⟩, ⟨f, hf, rfl⟩, rfl⟩
  -- and the stops come in the order of the walk
  have hl := (lists_getElem t.occurrences).flatMap Origin.mk (fun _ _ _ _ hlt => Or.inl hlt)
    (fun _ _ _ hlt => Or.inr ⟨rfl, hlt⟩) fun _ o _ => hturns o
  refine hl.congr ?_
  rintro ⟨i, k⟩ d
  constructor
  · rintro ⟨i, o, k, ho, ⟨r, f, hr⟩, heq⟩
    cases heq
    exact ⟨o, r, f, ho, hr⟩
  · rintro ⟨o, r, f, ho, hr⟩
    exact ⟨i, o, k, ho, ⟨r, f, hr⟩, rfl⟩

/-! ### One rule among others -/

def alone (e : Engine) (r : Rule) : Engine := { e with rules := [r] }

theorem nodup_alone (e : Engine) (r : Rule) : ((e.alone r).rules.map Rule.id).Nodup := by
  simp [alone]

@[simp] theorem rule_stamp (s : Settings) (file : String) (r : Rule) (f : Finding) :
    (stamp s file r f).rule = r.id := rfl

theorem filter_stamp (s : Settings) (file : String) (r : Rule) (fs : List Finding) (name : String) :
    ((fs.map (stamp s file r)).filter fun d => d.rule = name) =
      if r.id = name then fs.map (stamp s file r) else [] := by
  rw [List.filter_map]
  by_cases hid : r.id = name <;> simp [Function.comp_def, hid]

/-- In company a rule reports what it reports alone. -/
theorem filter_lintTemplate_rule (h : (e.rules.map Rule.id).Nodup) {r : Rule} (hr : r ∈ e.rules)
    (t : Template) (source : Source) :
    ((e.lintTemplate t source file).filter fun d => d.rule = r.id) =
      (e.alone r).lintTemplate t source file := by
  -- to pick out the diagnostics by their name is to pick out the rule that makes them
  have hactive : (e.alone r).active file = (e.active file).filter (·.id = r.id) := by
    rw [active_eq, active_eq, List.filter_comm, filter_id_eq h hr]
    rfl
  rw [lintTemplate_eq_stamp h, lintTemplate_eq_stamp (nodup_alone e r), hactive, List.filter_flatMap]
  refine List.flatMap_congr fun o _ => ?_
  rw [List.filter_flatMap, List.flatMap_filter]
  refine List.flatMap_congr fun x _ => ?_
  rw [filter_stamp]
  simp [alone]

/-- A rule alone reports the same under all settings that treat it the same. -/
theorem lintTemplate_alone_congr {e' : Engine} {r : Rule}
    (hseverity : e'.settings.severity? r.id = e.settings.severity? r.id)
    (hignores : e'.settings.ignores r.id file = e.settings.ignores r.id file) (t : Template)
    (source : Source) :
    (e'.alone r).lintTemplate t source file = (e.alone r).lintTemplate t source file := by
  have hactive : (e'.alone r).active file = (e.alone r).active file := by
    simp only [active_eq, alone, List.filter_singleton, hignores]
  have hstamp : stamp (e'.alone r).settings file r = stamp (e.alone r).settings file r := by
    funext f
    simp only [stamp, alone]
    rw [← Rule.id, hseverity]
  rw [lintTemplate_eq_stamp (nodup_alone e' r), lintTemplate_eq_stamp (nodup_alone e r), hactive]
  refine List.flatMap_congr fun o _ => List.flatMap_congr fun x hx => ?_
  obtain rfl := List.mem_singleton.mp (mem_active_iff.mp hx).1
  rw [hstamp]

/-- **Rules with different names do not interfere.** The diagnostics are those of the rules that run, each
stamped with what belongs to its own rule, in the order of the stops, then of the rules, then of what a
rule finds; there is no other list in this order. The diagnostics of one rule are those that it makes
alone. So they stay the same in every engine that has this rule and treats it the same, whatever other
rules there are, in which order, switched on or off, silent or not. -/
theorem rules_independent (h : (e.rules.map Rule.id).Nodup) (t : Template) (source : Source)
    (file : String) :
    (∀ l, Lists (e.Reports t source file) l ↔ l = e.lintTemplate t source file) ∧
    ∀ r ∈ e.rules,
      ((e.lintTemplate t source file).filter fun d => d.rule = r.id) =
        (e.alone r).lintTemplate t source file ∧
      ∀ e' : Engine, (e'.rules.map Rule.id).Nodup → r ∈ e'.rules →
        e'.settings.severity? r.id = e.settings.severity? r.id →
        e'.settings.ignores r.id file = e.settings.ignores r.id file →
        ((e'.lintTemplate t source file).filter fun d => d.rule = r.id) =
          (e.lintTemplate t source file).filter fun d => d.rule = r.id := by
  have hlists := lists_reports h t source file
  refine ⟨fun l => ⟨fun hl => hl.unique hlists, fun hl => hl ▸ hlists⟩, fun r hr => ⟨?_, ?_⟩⟩
  · exact filter_lintTemplate_rule h hr t source
  · intro e' h' hr' hseverity hignores
    rw [filter_lintTemplate_rule h hr, filter_lintTemplate_rule h' hr']
    exact lintTemplate_alone_congr hseverity hignores t source

def kindRule (info : RuleInfo) (enabled : Bool) (kind : String) : Rule where
  info := info
  enabled := enabled
  check _ o := if o.node.kind = kind then [⟨kind, o.node.loc.start, ""⟩] else []

/-- Two rules that run, of which the settings make one a matter of warnings, with a silent one between
them and one behind them that is switched off. -/
def company : Engine where
  settings :=
    { severity := [("mustaches", .warning)], ignore := [("*.hbs", ["silent"])] }
  rules := [kindRule ⟨"mustaches", none, .error, .correctness, none, none, []⟩ true "MustacheStatement",
    kindRule ⟨"silent", some "silent help", .error, .correctness, none, none, []⟩ true "ElementNode",
    kindRule ⟨"elements", some "element help", .info, .correctness, none, none, []⟩ true "ElementNode",
    kindRule ⟨"off", some "off help", .error, .correctness, none, none, []⟩ false "ElementNode"]

def mixedTemplate : Template :=
  let mustache : Statement := .mustache (.ofCallee (.path "title" {}))
  ⟨[mustache, .element ⟨"div", [], [], [mustache], {}⟩], {}⟩

theorem rules_independent_company :
    (company.rules.map Rule.id).Nodup ∧
    ((∀ l, Lists (company.Reports mixedTemplate .empty "page.hbs") l ↔
        l = company.lintTemplate mixedTemplate .empty "page.hbs") ∧
      ∀ r ∈ company.rules,
        ((company.lintTemplate mixedTemplate .empty "page.hbs").filter fun d => d.rule = r.id) =
          (company.alone r).lintTemplate mixedTemplate .empty "page.hbs" ∧
        ∀ e' : Engine, (e'.rules.map Rule.id).Nodup → r ∈ e'.rules →
          e'.settings.severity? r.id = company.settings.severity? r.id →
          e'.settings.ignores r.id "page.hbs" = company.settings.ignores r.id "page.hbs" →
          ((e'.lintTemplate mixedTemplate .empty "page.hbs").filter fun d => d.rule = r.id) =
            (company.lintTemplate mixedTemplate .empty "page.hbs").filter fun d => d.rule = r.id) ∧
    ((company.lintTemplate mixedTemplate .empty "page.hbs").map fun d => (d.rule, d.severity, d.help)) =
      [("mustaches", .warning, none), ("elements", .info, some "element help"),
        ("mustaches", .warning, none)] :=
  ⟨by decide, rules_independent (by decide) mixedTemplate .empty "page.hbs", by decide +kernel⟩

end TemplateLint.Engine
