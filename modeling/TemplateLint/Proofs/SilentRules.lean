import TemplateLint.Proofs.Independence

/-!
# Silent rules

The settings silence rules for files by a list of entries, each a pattern of paths with the names of rules.
An entry counts when its pattern is accepted and matches the file, and one entry is enough. So the entries
act as a set that can only grow more silent.

* `ignoresBy_iff`: the rules that are silent for a file are the union over the entries. Order, entries
  with a rejected pattern, and added entries or names are settled by this alone.
* `lintTemplateBy_unsilenced`: a silent rule might as well not be there.
* `lintTemplateBy_extends`: more entries take the diagnostics of whole rules out of the list, and leave
  the others as they are.

All this holds for every way to read patterns. `Settings.readPattern` is the one of the settings.
-/

namespace TemplateLint

/-! ### The rules that are silent for a file -/

namespace Settings

variable {read : PatternReader} {s : Settings} {rule file : String}

/-- An entry silences a rule for a file: its pattern is accepted and matches, and it names the rule or all
rules. -/
def Silences (read : PatternReader) (entry : String × List String) (rule file : String) : Prop :=
  ∃ isMatch, read entry.1 = some isMatch ∧ isMatch file = true ∧ (rule ∈ entry.2 ∨ "all" ∈ entry.2)

theorem ignoresBy_iff :
    s.ignoresBy read rule file = true ↔ ∃ entry ∈ s.ignore, Silences read entry rule file := by
  unfold ignoresBy
  rw [List.any_eq_true]
  apply exists_congr
  intro entry
  apply and_congr_right
  intro _
  show ((read entry.1).any (· file) && entry.2.any fun r => r == "all" || r == rule) = true ↔ _
  have hnames : (entry.2.any fun r => r == "all" || r == rule) = true ↔
      rule ∈ entry.2 ∨ "all" ∈ entry.2 := by
    rw [List.any_eq_true]
    grind
  rw [Bool.and_eq_true, hnames, Option.any_eq_true]
  constructor
  · rintro ⟨⟨isMatch, hread, hmatch⟩, hrule⟩
    exact ⟨isMatch, hread, hmatch, hrule⟩
  · rintro ⟨isMatch, hread, hmatch, hrule⟩
    exact ⟨⟨isMatch, hread, hmatch⟩, hrule⟩

/-- Settings whose entries silence the same have the same silent rules. -/
theorem ignoresBy_congr {s' : Settings}
    (h : (∃ entry ∈ s'.ignore, Silences read entry rule file) ↔
      ∃ entry ∈ s.ignore, Silences read entry rule file) :
    s'.ignoresBy read rule file = s.ignoresBy read rule file := by
  rw [Bool.eq_iff_iff, ignoresBy_iff, ignoresBy_iff]
  exact h

theorem ignoresBy_perm {entries : List (String × List String)} (h : entries.Perm s.ignore) :
    { s with ignore := entries }.ignoresBy read rule file = s.ignoresBy read rule file := by
  apply ignoresBy_congr
  apply exists_congr
  intro entry
  rw [h.mem_iff]

theorem ignoresBy_accepted :
    { s with ignore := s.ignore.filter fun entry => (read entry.1).isSome }.ignoresBy read rule file =
      s.ignoresBy read rule file := by
  apply ignoresBy_congr
  apply exists_congr
  intro entry
  rw [List.mem_filter, and_assoc]
  apply and_congr_right
  intro _
  apply and_iff_right_of_imp
  rintro ⟨isMatch, hread, -⟩
  rw [hread]
  rfl

/-- Every entry of the first list stands in the second one, with the same names and perhaps more. -/
def Extends (entries more : List (String × List String)) : Prop :=
  ∀ entry ∈ entries, ∃ entry' ∈ more, entry'.1 = entry.1 ∧ entry.2 ⊆ entry'.2

theorem Silences.mono {entry entry' : String × List String} (h : Silences read entry rule file)
    (hpattern : entry'.1 = entry.1) (hnames : entry.2 ⊆ entry'.2) :
    Silences read entry' rule file := by
  obtain ⟨isMatch, hread, hmatch, hrule⟩ := h
  refine ⟨isMatch, hpattern ▸ hread, hmatch, ?_⟩
  exact hrule.imp (fun h => hnames h) fun h => hnames h

theorem ignoresBy_extends {more : List (String × List String)} (h : Extends s.ignore more)
    (hignored : s.ignoresBy read rule file = true) :
    { s with ignore := more }.ignoresBy read rule file = true := by
  rw [ignoresBy_iff] at hignored ⊢
  obtain ⟨entry, hentry, hsilences⟩ := hignored
  obtain ⟨entry', hentry', hpattern, hnames⟩ := h entry hentry
  exact ⟨entry', hentry', hsilences.mono hpattern hnames⟩

end Settings

/-! ### The engine without silent rules -/

namespace Engine

variable {read : PatternReader} {e : Engine} {file : String}

/-- The engine with no entries that silence rules, and without the rules that are silent for a file. -/
def unsilenced (read : PatternReader) (e : Engine) (file : String) : Engine where
  settings := { e.settings with ignore := [] }
  rules := e.rules.filter fun r => !e.settings.ignoresBy read r.id file

theorem activeBy_unsilenced (read' : PatternReader) :
    (e.unsilenced read file).activeBy read' file = e.activeBy read file := by
  unfold activeBy unsilenced
  rw [List.filter_filter]
  apply List.filter_congr
  intro r _
  -- without entries no rule is silent
  show ((r.enabled && !false) && _) = _
  rw [Bool.not_false, Bool.and_true]

/-- What is found does not depend on whether a silent rule is there. The severities are the same. -/
theorem lintTemplateBy_unsilenced (t : Template) (source : Source) :
    (e.unsilenced read file).lintTemplateBy read t source file =
      e.lintTemplateBy read t source file := by
  unfold lintTemplateBy
  rw [activeBy_unsilenced]
  rfl

/-! ### More entries -/

/-- The engine with other entries that silence rules. -/
def withIgnore (e : Engine) (entries : List (String × List String)) : Engine :=
  { e with settings := { e.settings with ignore := entries } }

theorem activeBy_extends {more : List (String × List String)}
    (h : Settings.Extends e.settings.ignore more) :
    (e.withIgnore more).activeBy read file =
      (e.activeBy read file).filter fun r =>
        !(e.withIgnore more).settings.ignoresBy read r.id file := by
  unfold activeBy
  rw [List.filter_filter]
  apply List.filter_congr
  intro r _
  have hmore : e.settings.ignoresBy read r.id file = true →
      { e.settings with ignore := more }.ignoresBy read r.id file = true :=
    Settings.ignoresBy_extends h
  show (r.enabled && !{ e.settings with ignore := more }.ignoresBy read r.id file) =
    (!{ e.settings with ignore := more }.ignoresBy read r.id file && (r.enabled &&
      !e.settings.ignoresBy read r.id file))
  grind

/-- A rule that is kept with all others of its name has the help that it had. -/
theorem help_filter (keeps : String → Bool) {r : Rule} (hr : keeps r.id = true) (rules : List Rule) :
    help (rules.filter fun x => keeps x.id) r = help rules r := by
  have hfind : (fun x : Rule => decide (keeps x.id = true ∧ decide (x.id = r.id) = true)) =
      fun x => decide (x.id = r.id) := by
    funext x
    grind
  rw [help, List.find?_filter, hfind]
  rfl

/-- To keep rules by their names is to keep the diagnostics of these names. -/
theorem reportsOf_filter (keeps : String → Bool) (active : List Rule) (t : Template) (source : Source) :
    e.reportsOf (active.filter fun r => keeps r.id) t source file =
      (e.reportsOf active t source file).filter fun d => keeps d.rule := by
  unfold reportsOf
  rw [List.filter_flatMap]
  apply List.flatMap_congr
  intro o _
  rw [List.filter_flatMap, List.flatMap_filter]
  apply List.flatMap_congr
  intro r _
  rw [List.filter_map]
  cases hr : keeps r.id with
  | true =>
    have hall : ((fun d : Diagnostic => keeps d.rule) ∘ e.diagnose file (help active r) r) =
        fun _ => true := by
      funext f
      exact hr
    rw [if_pos rfl, help_filter keeps hr, hall, List.filter_true]
  | false =>
    have hnone : ((fun d : Diagnostic => keeps d.rule) ∘ e.diagnose file (help active r) r) =
        fun _ => false := by
      funext f
      exact hr
    rw [if_neg (by simp), hnone, List.filter_false, List.map_nil]

theorem lintTemplateBy_extends {more : List (String × List String)}
    (h : Settings.Extends e.settings.ignore more) (t : Template) (source : Source) :
    (e.withIgnore more).lintTemplateBy read t source file =
      (e.lintTemplateBy read t source file).filter fun d =>
        !(e.withIgnore more).settings.ignoresBy read d.rule file := by
  unfold lintTemplateBy
  rw [activeBy_extends h]
  -- a diagnostic does not depend on the entries
  show e.reportsOf _ t source file = _
  rw [reportsOf_filter fun rule => !(e.withIgnore more).settings.ignoresBy read rule file]

/-- **The silent rules of a file are the union over the entries of the settings.** This holds for every way
to read patterns, and in particular for that of the settings. A rule is silent exactly when some entry has
an accepted pattern that matches the file and names the rule or all rules. So the order of the entries does
not matter, entries with a rejected pattern have no effect, and a rule that is silent stays so when entries
or names are added.

What is found in a template is what an engine finds that does not have the silent rules and has no entries.
More entries remove the diagnostics of the rules that are silent then, all of them, and leave the others in
their order with all that they say. -/
theorem silent_rules_union (read : PatternReader) (e : Engine) (file : String) :
    (∀ rule, e.settings.ignoresBy read rule file = true ↔
      ∃ entry ∈ e.settings.ignore, ∃ isMatch, read entry.1 = some isMatch ∧ isMatch file = true ∧
        (rule ∈ entry.2 ∨ "all" ∈ entry.2)) ∧
    (∀ rule entries, entries.Perm e.settings.ignore →
      (e.withIgnore entries).settings.ignoresBy read rule file =
        e.settings.ignoresBy read rule file) ∧
    (∀ rule, (e.withIgnore (e.settings.ignore.filter fun entry => (read entry.1).isSome)).settings.ignoresBy
      read rule file = e.settings.ignoresBy read rule file) ∧
    (∀ rule more, Settings.Extends e.settings.ignore more →
      e.settings.ignoresBy read rule file = true →
      (e.withIgnore more).settings.ignoresBy read rule file = true) ∧
    (∀ t source, e.lintTemplateBy read t source file =
      (e.unsilenced read file).lintTemplateBy read t source file) ∧
    (∀ t source more, Settings.Extends e.settings.ignore more →
      (e.withIgnore more).lintTemplateBy read t source file =
        ((e.lintTemplateBy read t source file).filter fun d =>
          !(e.withIgnore more).settings.ignoresBy read d.rule file) ∧
      ((e.withIgnore more).lintTemplateBy read t source file).Sublist
        (e.lintTemplateBy read t source file)) ∧
    Settings.ignoresBy Settings.readPattern = Settings.ignores ∧
    e.lintTemplateBy Settings.readPattern = e.lintTemplate := by
  refine ⟨?_, ?_, ?_, ?_, ?_, ?_, ?_, ?_⟩
  · intro rule
    exact Settings.ignoresBy_iff
  · intro rule entries hperm
    exact Settings.ignoresBy_perm hperm
  · intro rule
    exact Settings.ignoresBy_accepted
  · intro rule more hmore hignored
    exact Settings.ignoresBy_extends hmore hignored
  · intro t source
    exact (lintTemplateBy_unsilenced t source).symm
  · intro t source more hmore
    refine ⟨lintTemplateBy_extends hmore t source, ?_⟩
    rw [lintTemplateBy_extends hmore t source]
    exact List.filter_sublist
  · rfl
  · rfl

/-- The entry of `company` with one name more, behind an entry for all rules whose pattern is rejected. -/
def moreEntries : List (String × List String) := [("[", ["all"]), ("*.hbs", ["elements", "silent"])]

theorem silent_rules_union_company :
    Settings.Extends company.settings.ignore moreEntries ∧
    (Settings.readPattern "[").isNone = true ∧
    ((company.withIgnore moreEntries).lintTemplateBy Settings.readPattern mixedTemplate .empty "page.hbs" =
        ((company.lintTemplateBy Settings.readPattern mixedTemplate .empty "page.hbs").filter fun d =>
          !(company.withIgnore moreEntries).settings.ignoresBy Settings.readPattern d.rule "page.hbs") ∧
      ((company.withIgnore moreEntries).lintTemplateBy Settings.readPattern mixedTemplate .empty
        "page.hbs").Sublist
        (company.lintTemplateBy Settings.readPattern mixedTemplate .empty "page.hbs")) ∧
    (company.lintTemplate mixedTemplate .empty "page.hbs").map Diagnostic.rule =
      ["mustaches", "elements", "mustaches"] ∧
    ((company.withIgnore moreEntries).lintTemplate mixedTemplate .empty "page.hbs").map Diagnostic.rule =
      ["mustaches", "mustaches"] := by
  have hmore : Settings.Extends company.settings.ignore moreEntries := by
    unfold Settings.Extends
    decide
  refine ⟨hmore, by decide +kernel, ?_, by decide +kernel, by decide +kernel⟩
  exact (silent_rules_union Settings.readPattern company "page.hbs").2.2.2.2.2.1 mixedTemplate .empty
    moreEntries hmore

end Engine

end TemplateLint
