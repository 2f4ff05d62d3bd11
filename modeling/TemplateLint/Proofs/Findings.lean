import TemplateLint.Lint.Engine
import TemplateLint.Proofs.Invocations

/-!
# What the header rule reports

The header rule makes two kinds of diagnostics, which are told apart by how their messages begin.
Both are **sound and complete**: a template has a diagnostic for every invocation that breaks the rule,
and for nothing else, in the order of the sites of these invocations.

* `plain_actions_reported`: the main header is given an action as a plain text. There is one diagnostic
  for each such argument.
* `missing_arguments_reported`: a header operation is given none of the arguments that it needs. There
  is one diagnostic for each such invocation.

The conditions are stated for what is written in the template, without the checks that the rule runs.
-/

namespace TemplateLint.Header

/-! ### An engine that runs the header rule alone -/

/-- A diagnostic of the header rule. -/
def diagnostic (e : Engine) (file message : String) (position : Position) (quote : String) :
    Diagnostic where
  rule := "header-main"
  severity := (e.settings.severity? "header-main").getD .error
  message := message
  location := ⟨file, position.line, position.column⟩
  source := quote
  help := info.description

variable {e : Engine} {file : String}

/-- The diagnostic of a finding of the header rule. -/
def ofFinding (e : Engine) (file : String) (f : Finding) : Diagnostic :=
  diagnostic e file f.message f.position f.source

theorem diagnose_eq (f : Finding) :
    e.diagnose file (Engine.help [rule true] (rule true)) (rule true) f =
      ofFinding e file f := by
  rfl

/-- The engine reports what is wrong with the invocations of the template. -/
theorem lintTemplate_eq (h : e.active file = [rule true]) (t : Template) (source : Source) :
    e.lintTemplate t source file = (t.occurrences.flatMap invocations).flatMap fun v =>
      (checkInvocation source v).map (ofFinding e file) := by
  have hstop : ∀ o, ([rule true].flatMap fun r => (r.check source o).map
      (e.diagnose file (Engine.help [rule true] r) r)) =
      (invocations o).flatMap fun v =>
        (checkInvocation source v).map (ofFinding e file) := by
    intro o
    rw [List.flatMap_singleton, funext diagnose_eq, ← List.map_flatMap]
    rfl
  rw [Engine.lintTemplate_eq_reportsOf, Engine.reportsOf, h, List.flatMap_assoc]
  exact List.flatMap_congr fun o _ => hstop o

/-- What an operation needs, if it is given none of that. -/
def unmet? (v : Invocation) : Option (List String) :=
  (requirements? v.component).filter fun needed =>
    v.isOperation && !v.arguments.any fun a => a.isNamed needed.contains

theorem checkRequirements_eq (source : Source) (v : Invocation) :
    checkRequirements source v = (unmet? v).toList.map (missingArguments source v) := by
  unfold checkRequirements unmet?
  cases hop : v.isOperation with
  | false => simp
  | true =>
    cases hreq : requirements? v.component with
    | none => rfl
    | some needed =>
      cases hany : v.arguments.any fun a => a.isNamed needed.contains <;>
        simp [Option.filter, hany]

/-! ### Messages -/

theorem startsWith_append {p q : String} (s : String) (h : p.toList <+: q.toList) :
    (q ++ s).startsWith p = true := by
  rw [String.startsWith_string_iff, String.toList_append]
  exact h.trans (List.prefix_append _ _)

theorem not_startsWith_append {p q : String} (s : String)
    (h : ¬ p.toList <+: q.toList ∧ ¬ q.toList <+: p.toList) : (q ++ s).startsWith p = false := by
  rw [String.startsWith_string_eq_false_iff, String.toList_append]
  intro hp
  rcases List.prefix_or_prefix_of_prefix hp (List.prefix_append _ _) with hpq | hqp
  · exact h.1 hpq
  · exact h.2 hqp

theorem message_plainAction (source : Source) (a : Argument) :
    (plainAction source a).message =
      "Use of actions as Strings should be avoided. You used " ++ (source.slice a.loc ++ ".") :=
  String.append_assoc

theorem message_missingArguments (source : Source) (v : Invocation) (needed : List String) :
    (missingArguments source v needed).message =
      "Component \"" ++ (v.component ++ ("\" must implement all attrs: " ++
        (", ".intercalate needed ++ "."))) := by
  rw [← String.append_assoc, ← String.append_assoc, ← String.append_assoc]
  rfl

/-- How the messages about actions begin. -/
theorem startsWith_of_mem_checkActions {source : Source} {v : Invocation} {f : Finding}
    (h : f ∈ checkActions source v) :
    f.message.startsWith "Use of actions as Strings" = true ∧
      f.message.startsWith "Component \"" = false := by
  by_cases hv : v.isMain
  · rw [checkActions, if_pos hv] at h
    obtain ⟨a, -, rfl⟩ := List.mem_map.mp h
    rw [message_plainAction]
    exact ⟨startsWith_append _ (by decide), not_startsWith_append _ (by decide)⟩
  · rw [checkActions, if_neg hv] at h
    cases h

/-- How the messages about missing arguments begin. -/
theorem startsWith_of_mem_checkRequirements {source : Source} {v : Invocation} {f : Finding}
    (h : f ∈ checkRequirements source v) :
    f.message.startsWith "Use of actions as Strings" = false ∧
      f.message.startsWith "Component \"" = true := by
  rw [checkRequirements_eq] at h
  obtain ⟨needed, -, rfl⟩ := List.mem_map.mp h
  rw [message_missingArguments]
  exact ⟨not_startsWith_append _ (by decide), startsWith_append _ (by decide)⟩

theorem filter_lintTemplate (h : e.active file = [rule true]) (t : Template) (source : Source)
    (start : String) :
    ((e.lintTemplate t source file).filter fun d => d.message.startsWith start) =
      (t.occurrences.flatMap invocations).flatMap fun v =>
        ((checkInvocation source v).filter fun f => f.message.startsWith start).map
          (ofFinding e file) := by
  rw [lintTemplate_eq h, List.filter_flatMap]
  refine List.flatMap_congr fun v _ => ?_
  rw [List.filter_map]
  rfl

theorem filter_checkInvocation_actions (source : Source) (v : Invocation) :
    ((checkInvocation source v).filter fun f => f.message.startsWith "Use of actions as Strings") =
      checkActions source v := by
  have hself : ∀ f ∈ checkActions source v, f.message.startsWith "Use of actions as Strings" :=
    fun f hf => (startsWith_of_mem_checkActions hf).1
  have hnil : ∀ f ∈ checkRequirements source v,
      ¬ f.message.startsWith "Use of actions as Strings" := by
    intro f hf
    rw [(startsWith_of_mem_checkRequirements hf).1]
    exact Bool.false_ne_true
  rw [checkInvocation, List.filter_append, List.filter_eq_self.mpr hself,
    List.filter_eq_nil_iff.mpr hnil, List.append_nil]

theorem filter_checkInvocation_requirements (source : Source) (v : Invocation) :
    ((checkInvocation source v).filter fun f => f.message.startsWith "Component \"") =
      checkRequirements source v := by
  have hself : ∀ f ∈ checkRequirements source v, f.message.startsWith "Component \"" :=
    fun f hf => (startsWith_of_mem_checkRequirements hf).2
  have hnil : ∀ f ∈ checkActions source v, ¬ f.message.startsWith "Component \"" := by
    intro f hf
    rw [(startsWith_of_mem_checkActions hf).2]
    exact Bool.false_ne_true
  rw [checkInvocation, List.filter_append, List.filter_eq_nil_iff.mpr hnil,
    List.filter_eq_self.mpr hself, List.nil_append]

/-! ### The table of operations -/

/-- The table can be searched by its keys, and no key has a dot. -/
theorem operations_lookup : ∀ x ∈ operations, requirements? x.1 = some x.2 ∧ '.' ∉ x.1.toList := by
  decide

/-- What stands after the last dot of a name. -/
theorem component_eq {v : Invocation} {before after : List Char}
    (h : v.name.toList = before ++ '.' :: after) (hafter : '.' ∉ after) :
    v.component = String.ofList after := by
  -- read from the end, the name is the last part up to its first dot
  have htake : (after.reverse ++ '.' :: before.reverse).takeWhile (· ≠ '.') = after.reverse := by
    rw [List.takeWhile_append_of_pos (by
      intro c hc
      simpa using ne_of_mem_of_not_mem (List.mem_reverse.mp hc) hafter)]
    simp
  rw [Invocation.component, h, List.reverse_append, List.reverse_cons, List.append_assoc]
  exact congrArg (fun l => String.ofList l.reverse) htake |>.trans (by rw [List.reverse_reverse])

theorem component_wrapper {v : Invocation} {operation : String} {needed : List String}
    (hmem : (operation, needed) ∈ operations) (hname : v.name = "wrapper." ++ operation) :
    v.component = operation := by
  have hsplit : v.name.toList = "wrapper".toList ++ '.' :: operation.toList := by
    rw [hname, String.toList_append]
    rfl
  rw [component_eq hsplit (operations_lookup _ hmem).2, String.ofList_toList]

theorem isOperation_iff {v : Invocation} :
    v.isOperation ↔ ∃ operation needed, (operation, needed) ∈ operations ∧
      v.name = "wrapper." ++ operation := by
  simp only [Invocation.isOperation, familyNames, List.contains_iff_mem, List.mem_map, Prod.exists,
    eq_comm (a := v.name)]

/-- The search of the table for an operation always finds what the operation needs. -/
theorem requirements?_component {v : Invocation} (h : v.isOperation) :
    ∃ needed, (v.component, needed) ∈ operations ∧ v.name = "wrapper." ++ v.component ∧
      requirements? v.component = some needed := by
  obtain ⟨operation, needed, hmem, hname⟩ := isOperation_iff.mp h
  obtain rfl := component_wrapper hmem hname
  exact ⟨needed, hmem, hname, (operations_lookup _ hmem).1⟩

/-- No name is one of the main header and one of an operation. -/
theorem not_isMain_of_isOperation {v : Invocation} (h : v.isOperation) : v.isMain = false := by
  have hdisjoint : ∀ name ∈ familyNames, name ∉ mainPaths ∧ name ∉ mainTags := by decide
  have hname := hdisjoint v.name (List.contains_iff_mem.mp h)
  unfold Invocation.isMain
  split
  · simpa using hname.1
  · simpa using hname.2

/-! ### Actions as plain texts -/

/-- The invocation names the main header. It has other names in a call than as an element. -/
def RawInvocation.NamesMain (r : RawInvocation) : Prop :=
  (r.form = .call ∧ r.name ∈ ["wrapper.header", "header-main"]) ∨
    (r.form = .element ∧ r.name ∈ ["HeaderMain", "wrapper.header"])

theorem isMain_iff {r : RawInvocation} : r.invocation.isMain ↔ r.NamesMain := by
  obtain ⟨name, form, arguments, loc⟩ := r
  cases form <;>
    simp [RawInvocation.invocation, Invocation.isMain, RawInvocation.NamesMain, mainPaths, mainTags]

/-- The argument holds an action, written as a plain text. -/
def RawArgument.IsPlainAction (x : RawArgument) : Prop :=
  x.IsPlain ∧ ∃ name ∈ ["back", "close", "edit", "menu"], x.HasName name

theorem isPlainAction_iff {x : RawArgument} :
    (x.argument.isNamed isAction && x.argument.isLiteral) = true ↔ x.IsPlainAction := by
  rw [Bool.and_eq_true, RawArgument.isNamed_iff, RawArgument.IsPlainAction]
  constructor
  · rintro ⟨⟨name, hname, haction⟩, hplain⟩
    exact ⟨(RawArgument.isLiteral_iff hname).mp hplain, name, List.contains_iff_mem.mp haction, hname⟩
  · rintro ⟨hplain, name, haction, hname⟩
    exact ⟨⟨name, hname, List.contains_iff_mem.mpr haction⟩,
      (RawArgument.isLiteral_iff hname).mpr hplain⟩

/-- Where an argument of an invocation is found. -/
structure ArgumentSite where
  site : Site
  index : Nat
  deriving DecidableEq, Repr

instance : LT ArgumentSite := ⟨fun k k' => k.site < k'.site ∨ k.site = k'.site ∧ k.index < k'.index⟩

/-- The main header is invoked, and the argument at the site is an action as a plain text. -/
def PlainActionAt (t : Template) (k : ArgumentSite) (x : RawArgument) : Prop :=
  ∃ r, Resolves t k.site r ∧ r.NamesMain ∧ r.arguments[k.index]? = some x ∧ x.IsPlainAction

theorem lists_checkActions (source : Source) (v : Invocation) :
    Lists (fun (i : Nat) f => v.isMain ∧ ∃ a, (v.arguments[i]? = some a ∧
      (a.isNamed isAction && a.isLiteral) = true) ∧ plainAction source a = f)
      (checkActions source v) := by
  unfold checkActions
  by_cases hv : v.isMain
  · rw [if_pos hv]
    refine (((lists_getElem v.arguments).filter _).map (plainAction source)).congr fun i f => ?_
    exact (and_iff_right hv).symm
  · rw [if_neg hv]
    exact Lists.nil fun _ _ h => hv h.1

/-- The diagnostic about an argument that holds an action as a plain text. It cites the argument. -/
def plainActionDiagnostic (e : Engine) (file : String) (source : Source) (x : RawArgument) :
    Diagnostic :=
  diagnostic e file
    ("Use of actions as Strings should be avoided. You used " ++ source.slice x.loc ++ ".")
    x.loc.start (source.slice x.loc)

theorem ofFinding_plainAction (source : Source) (x : RawArgument) :
    ofFinding e file (plainAction source x.argument) = plainActionDiagnostic e file source x := by
  rw [plainActionDiagnostic, ← x.loc_argument]
  rfl

/-- **The header rule reports exactly the actions that the main header is given as plain texts.** An engine
that runs this rule alone makes one diagnostic for each of them, in the order of their sites. -/
theorem plain_actions_reported (h : e.active file = [rule true]) (t : Template) (source : Source) :
    Lists (fun k d => ∃ x, PlainActionAt t k x ∧ d = plainActionDiagnostic e file source x)
      ((e.lintTemplate t source file).filter fun d =>
        d.message.startsWith "Use of actions as Strings") := by
  simp only [filter_lintTemplate h, filter_checkInvocation_actions]
  have hl := (lists_resolves t).flatMap
    (f := fun v => (checkActions source v).map (ofFinding e file)) ArgumentSite.mk
    (fun _ _ _ _ h => Or.inl h) (fun _ _ _ h => Or.inr ⟨rfl, h⟩)
    fun _ v _ => (lists_checkActions source v).map (ofFinding e file)
  refine hl.congr ?_
  rintro ⟨k, i⟩ d
  constructor
  · rintro ⟨k, _, i, ⟨r, hr, rfl⟩, ⟨_, ⟨hmain, a, ⟨ha, hplain⟩, rfl⟩, rfl⟩, heq⟩
    cases heq
    obtain ⟨x, hx, rfl⟩ := List.exists_of_getElem?_map ha
    exact ⟨x, ⟨r, hr, isMain_iff.mp hmain, hx, isPlainAction_iff.mp hplain⟩,
      ofFinding_plainAction source x⟩
  · rintro ⟨x, ⟨r, hr, hmain, hx, hplain⟩, rfl⟩
    have ha : r.invocation.arguments[i]? = some x.argument :=
      List.getElem?_map.trans (congrArg (Option.map _) hx)
    exact ⟨k, r.invocation, i, ⟨r, hr, rfl⟩, ⟨_, ⟨isMain_iff.mpr hmain, x.argument,
      ⟨ha, isPlainAction_iff.mpr hplain⟩, rfl⟩, ofFinding_plainAction source x⟩, rfl⟩

/-- A header that is an argument of a call, which gives it one of its two plain texts. -/
def headerInCall : Template :=
  let helper : Call := ⟨.path "component" {}, [.string "header-main" {}],
    ⟨[⟨"close", .string "close" {}, {}⟩], {}⟩, {}⟩
  ⟨[.mustache ⟨.path "page" {}, [],
    ⟨[⟨"header", .sub helper, {}⟩, ⟨"back", .string "back" {}, {}⟩], {}⟩, {}⟩], {}⟩

theorem plain_actions_reported_headerInCall :
    (Engine.mk {} [rule true]).active "page.hbs" = [rule true] ∧
    Lists
      (fun k d => ∃ x, PlainActionAt headerInCall k x ∧
        d = plainActionDiagnostic ⟨{}, [rule true]⟩ "page.hbs" .empty x)
      (((Engine.mk {} [rule true]).lintTemplate headerInCall .empty "page.hbs").filter fun d =>
        d.message.startsWith "Use of actions as Strings") ∧
    (((Engine.mk {} [rule true]).lintTemplate headerInCall .empty "page.hbs").filter fun d =>
      d.message.startsWith "Use of actions as Strings").length = 2 :=
  ⟨rfl, plain_actions_reported rfl headerInCall .empty, by decide +kernel⟩

/-! ### Arguments that are missing -/

/-- An operation of the table is invoked by its name behind the wrapper, and is given no argument that has
the name of one that it needs. -/
def MissingAt (t : Template) (k : Site) (r : RawInvocation) (operation : String)
    (needed : List String) : Prop :=
  Resolves t k r ∧ (operation, needed) ∈ operations ∧ r.name = "wrapper." ++ operation ∧
    ∀ x ∈ r.arguments, ∀ name, x.HasName name → name ∉ needed

/-- The diagnostic about an operation that is given none of the arguments that it needs. It names the
operation and these arguments, and cites the node that invokes. -/
def missingDiagnostic (e : Engine) (file : String) (source : Source) (r : RawInvocation)
    (operation : String) (needed : List String) : Diagnostic :=
  diagnostic e file
    ("Component \"" ++ operation ++ "\" must implement all attrs: " ++ ", ".intercalate needed ++ ".")
    r.loc.start (source.slice r.loc)

theorem any_isNamed_eq_false_iff {r : RawInvocation} {needed : List String} :
    (r.invocation.arguments.any fun a => a.isNamed needed.contains) = false ↔
      ∀ x ∈ r.arguments, ∀ name, x.HasName name → name ∉ needed := by
  rw [List.any_eq_false, RawInvocation.invocation, List.forall_mem_map]
  refine forall₂_congr fun x _ => ?_
  rw [RawArgument.isNamed_iff]
  simp

theorem unmet?_eq_some_iff {r : RawInvocation} {needed : List String} :
    unmet? r.invocation = some needed ↔ ∃ operation, (operation, needed) ∈ operations ∧
      r.name = "wrapper." ++ operation ∧ r.invocation.component = operation ∧
      ∀ x ∈ r.arguments, ∀ name, x.HasName name → name ∉ needed := by
  rw [unmet?, Option.filter_eq_some_iff, Bool.and_eq_true, Bool.not_eq_true',
    any_isNamed_eq_false_iff]
  constructor
  · rintro ⟨hreq, hop, hnone⟩
    obtain ⟨needed', hmem, hname, hreq'⟩ := requirements?_component hop
    obtain rfl := Option.some.inj (hreq.symm.trans hreq')
    exact ⟨_, hmem, hname, rfl, hnone⟩
  · rintro ⟨operation, hmem, hname, rfl, hnone⟩
    exact ⟨(operations_lookup _ hmem).1, isOperation_iff.mpr ⟨_, _, hmem, hname⟩, hnone⟩

theorem filter_lintTemplate_requirements (h : e.active file = [rule true]) (t : Template)
    (source : Source) :
    ((e.lintTemplate t source file).filter fun d => d.message.startsWith "Component \"") =
      (t.occurrences.flatMap invocations).filterMap fun v =>
        (unmet? v).map fun needed => ofFinding e file (missingArguments source v needed) := by
  rw [filter_lintTemplate h, List.filterMap_eq_flatMap_toList]
  refine List.flatMap_congr fun v _ => ?_
  rw [filter_checkInvocation_requirements, checkRequirements_eq]
  cases unmet? v <;> rfl

/-- The two checks never both complain about an invocation. -/
theorem checkActions_eq_nil_or (source : Source) (v : Invocation) :
    checkActions source v = [] ∨ checkRequirements source v = [] := by
  cases hop : v.isOperation with
  | true =>
    left
    rw [checkActions, not_isMain_of_isOperation hop]
    rfl
  | false =>
    right
    rw [checkRequirements, hop]

/-- **The header rule reports exactly the operations that are given none of the arguments that they need.**
An engine that runs this rule alone makes one diagnostic for each of their invocations, in the order of
their sites. It cites the node that invokes, and names the operation, which is what stands after the last
dot of the name, with what the table says that it needs. The search of the table for an operation never
fails, and no invocation has diagnostics of both kinds. -/
theorem missing_arguments_reported (h : e.active file = [rule true]) (t : Template)
    (source : Source) :
    Lists
      (fun k d => ∃ r operation needed, MissingAt t k r operation needed ∧
        d = missingDiagnostic e file source r operation needed)
      ((e.lintTemplate t source file).filter fun d => d.message.startsWith "Component \"") ∧
    (∀ k r operation needed, MissingAt t k r operation needed →
      (∃ before, r.name.toList = before ++ '.' :: operation.toList) ∧ '.' ∉ operation.toList) ∧
    (∀ v : Invocation, v.isOperation → ∃ needed, (v.component, needed) ∈ operations ∧
      v.name = "wrapper." ++ v.component ∧ requirements? v.component = some needed) ∧
    ∀ v, checkActions source v = [] ∨ checkRequirements source v = [] := by
  refine ⟨?_, ?_, fun v => requirements?_component, checkActions_eq_nil_or source⟩
  · rw [filter_lintTemplate_requirements h]
    refine ((lists_resolves t).filterMap _).congr fun k d => ?_
    -- the check searches the table by the last part of the name, the statement by its entries
    constructor
    · rintro ⟨_, ⟨r, hr, rfl⟩, hd⟩
      obtain ⟨needed, hunmet, rfl⟩ := Option.map_eq_some_iff.mp hd
      obtain ⟨operation, hmem, hname, rfl, hnone⟩ := unmet?_eq_some_iff.mp hunmet
      exact ⟨r, _, needed, ⟨hr, hmem, hname, hnone⟩, rfl⟩
    · rintro ⟨r, operation, needed, ⟨hr, hmem, hname, hnone⟩, rfl⟩
      obtain rfl := component_wrapper (v := r.invocation) hmem hname
      have hunmet := unmet?_eq_some_iff.mpr ⟨_, hmem, hname, rfl, hnone⟩
      exact ⟨r.invocation, ⟨r, hr, rfl⟩, by rw [hunmet]; rfl⟩
  · rintro k r operation needed ⟨-, hmem, hname, -⟩
    refine ⟨⟨"wrapper".toList, ?_⟩, (operations_lookup _ hmem).2⟩
    rw [hname, String.toList_append]
    rfl

/-- An operation in the body of a block, by way of the helper, with an argument that it does not need. -/
def operationInBlock : Template :=
  let helper : Call := ⟨.path "component" {}, [.path "wrapper.headerOperationIndex" {}],
    ⟨[⟨"edit", .path "this.edit" {}, {}⟩], {}⟩, {}⟩
  ⟨[.block ⟨⟨.path "if" {}, [], ⟨[⟨"close", .path "this.close" {}, {}⟩], {}⟩, {}⟩,
    ⟨[.mustache helper], {}⟩, none⟩], {}⟩

theorem missing_arguments_reported_operationInBlock :
    (Engine.mk {} [rule true]).active "page.hbs" = [rule true] ∧
    (Lists
      (fun k d => ∃ r operation needed, MissingAt operationInBlock k r operation needed ∧
        d = missingDiagnostic ⟨{}, [rule true]⟩ "page.hbs" .empty r operation needed)
      (((Engine.mk {} [rule true]).lintTemplate operationInBlock .empty "page.hbs").filter fun d =>
        d.message.startsWith "Component \"") ∧
    (∀ k r operation needed, MissingAt operationInBlock k r operation needed →
      (∃ before, r.name.toList = before ++ '.' :: operation.toList) ∧ '.' ∉ operation.toList) ∧
    (∀ v : Invocation, v.isOperation → ∃ needed, (v.component, needed) ∈ operations ∧
      v.name = "wrapper." ++ v.component ∧ requirements? v.component = some needed) ∧
    ∀ v, checkActions .empty v = [] ∨ checkRequirements .empty v = []) ∧
    (((Engine.mk {} [rule true]).lintTemplate operationInBlock .empty "page.hbs").filter fun d =>
      d.message.startsWith "Component \"").length = 1 :=
  ⟨rfl, missing_arguments_reported rfl operationInBlock .empty, by decide +kernel⟩

end TemplateLint.Header
