import LintServer.Proofs.Roots
import LintServer.Server.Basic

/-!
# Passes over a changing disk

A pass over a document reads the configuration of its project at that moment.  What stays from
earlier passes is the document's root, and what stays from the start are the base rules; everything
else is read anew.  Here a whole history is given, of passes over any documents with any folders and
of any changes of the disk between them, and the result of one more pass is described from that
history:

* `firstRoot?` — the root that a history leaves a document with, read off the history alone;
* `fileConfig?` and `rulesFor` — the rules that the disk has for a root at one moment;
* `startRules` — the base rules that the disk had at the start.

The main statement (`publishText_after_history`) is that one more pass sends exactly one list of
diagnostics, that of these rules.
-/

namespace LintServer

/-! ## the rules on a disk -/

/-- What a file with the layout of a configuration says, if it is there, can be read, is a text and
has no fault. -/
def fileConfig? (d : Disk) (path : Path) : Option ConfigDraft :=
  if d.isFile path then
    (d.readText? path).bind fun text =>
      (Toml.parse (String.ofList text)).toOption.bind fun entries =>
        (({} : ConfigDraft).addAll entries).toOption
  else none

/-- The rules for a document with a root, or without one: those of the project's file, and behind them
the base rules, unless the file says that it does not extend them.  Without a root, with an empty one
or without a file that can be used there are none. -/
def rulesFor (d : Disk) (root : Option Path) (base : List Rule) : List Rule :=
  match (root.filter (!·.bytes.isEmpty)).bind fun r => fileConfig? d (projectFile r) with
  | none => []
  | some file => file.lints.getD [] ++ if file.extendsBase = some false then [] else base

/-- The base rules of the first file that has some, or else the built-in ones. -/
def startRules (d : Disk) (candidates : List Path) : List Rule :=
  ((candidates.findSome? (fileConfig? d)).map (·.lints.getD [])).getD builtinRules

/-- A text is read from a file and from nothing else. -/
theorem Disk.isFile_of_readText? {d : Disk} {path : Path} {text : List Char}
    (h : d.readText? path = some text) : d.isFile path = true := by
  unfold readText? at h
  unfold isFile
  cases he : d.entry? path with
  | none => simp [he] at h
  | some e =>
      cases e with
      | file content => simp [Entry.isFolder]
      | folder es => simp [he] at h

/-- **Reading a configuration**, seen from what the file says. -/
theorem parseConfig_toOption (text : String) :
    (parseConfig text).toOption =
      ((Toml.parse text).toOption.bind fun entries =>
        (({} : ConfigDraft).addAll entries).toOption).map fun file =>
          ⟨file.extendsBase.getD true, file.lints.getD []⟩ := by
  unfold parseConfig readConfig
  cases Toml.parse text with
  | error e => rfl
  | ok entries =>
      simp only [Except.toOption, Option.bind_some]
      cases ({} : ConfigDraft).addAll entries <;> rfl

/-- What a file says is what its text says. -/
theorem fileConfig?_eq (d : Disk) (path : Path) :
    (fileConfig? d path).map (fun file => (⟨file.extendsBase.getD true, file.lints.getD []⟩ : Config)) =
      (d.readText? path).bind fun text => (parseConfig (String.ofList text)).toOption := by
  unfold fileConfig?
  cases h : d.readText? path with
  | none => simp
  | some text =>
      rw [if_pos (Disk.isFile_of_readText? h)]
      simp only [Option.bind_some, parseConfig_toOption]

/-- **What comes of reading a file**: it cannot be read, or its text has a fault, or it says
something. -/
theorem fileConfig?_cases (d : Disk) (path : Path) :
    (d.readText? path = none ∧ fileConfig? d path = none) ∨
      (∃ text e, d.readText? path = some text ∧ parseConfig (String.ofList text) = .error e ∧
        fileConfig? d path = none) ∨
      ∃ text file, d.readText? path = some text ∧
        parseConfig (String.ofList text) = .ok ⟨file.extendsBase.getD true, file.lints.getD []⟩ ∧
        fileConfig? d path = some file := by
  have hfile := fileConfig?_eq d path
  cases hread : d.readText? path with
  | none =>
      rw [hread, Option.bind_none, Option.map_eq_none_iff] at hfile
      exact .inl ⟨rfl, hfile⟩
  | some text =>
      rw [hread, Option.bind_some] at hfile
      cases hparse : parseConfig (String.ofList text) with
      | error e =>
          rw [hparse] at hfile
          exact .inr (.inl ⟨text, e, rfl, hparse, Option.map_eq_none_iff.mp hfile⟩)
      | ok c =>
          rw [hparse] at hfile
          obtain ⟨file, hsome, rfl⟩ := Option.map_eq_some_iff.mp hfile
          exact .inr (.inr ⟨text, file, rfl, hparse, hsome⟩)

/-- A configuration extended by the base rules, unless its file says that it does not extend them. -/
theorem applyBase_lints (file : ConfigDraft) (base : List Rule) :
    (Config.applyBase ⟨file.extendsBase.getD true, file.lints.getD []⟩ base).lints =
      file.lints.getD [] ++ if file.extendsBase = some false then [] else base := by
  unfold Config.applyBase
  cases file.extendsBase with
  | none => simp
  | some b => cases b <;> simp

/-- **The rules of a project** are those that its file has, extended by the base rules as it says. -/
theorem loadConfig_lints (d : Disk) (root : Option Path) (base : List Rule) :
    (loadConfig d root base).lints = rulesFor d root base := by
  unfold loadConfig rulesFor
  cases root with
  | none => rfl
  | some root =>
      by_cases hempty : root.bytes.isEmpty = true
      · simp [Option.filter, hempty]
      · rcases fileConfig?_cases d (projectFile root) with ⟨hread, hnone⟩ |
          ⟨text, e, hread, hparse, hnone⟩ | ⟨text, file, hread, hparse, hsome⟩
        · simp [Option.filter, hempty, hread, hnone]
        · simp [Option.filter, hempty, hread, hparse, hnone]
        · simp [Option.filter, hempty, hread, hparse, hsome, applyBase_lints]

/-- The base rules of a file are the rules that it has. -/
theorem ofFile_rules (d : Disk) (path : Path) :
    (BaseRules.ofFile d path).toOption.map (·.rules) = (fileConfig? d path).map (·.lints.getD []) := by
  rw [BaseRules.ofFile]
  rcases fileConfig?_cases d path with ⟨hread, hnone⟩ |
    ⟨text, e, hread, hparse, hnone⟩ | ⟨text, file, hread, hparse, hsome⟩
  · simp [hread, hnone, Except.toOption]
  · simp [hread, hparse, hnone, Except.toOption]
  · simp [hread, hparse, hsome, Except.toOption]

/-- **The base rules** are those of the first file that says something. -/
theorem load_rules (d : Disk) (candidates : List Path) :
    (BaseRules.load d candidates).rules = startRules d candidates := by
  have hfirst : (candidates.findSome? fun p => (BaseRules.ofFile d p).toOption).map (·.rules) =
      (candidates.findSome? (fileConfig? d)).map (·.lints.getD []) := by
    rw [List.map_findSome?, List.map_findSome?]
    exact congrArg (candidates.findSome? ·) (funext fun p => ofFile_rules d p)
  rw [BaseRules.load, startRules, ← hfirst]
  exact (Option.getD_map BaseRules.rules {} _).symm

/-! ## one pass -/

/-- **The result of a pass**: the diagnostics of the text under the rules that the disk has for the
document's root. -/
theorem Settings.lint_fst (s : Settings) (d : Disk) (folder : Option Path) (uri : Uri) (text : String)
    (o : PassOptions) :
    (s.lint d folder uri text o).1 =
      ⟨uri, (Config.check ⟨false, rulesFor d (s.rootWith d folder uri) s.base.rules⟩ o.limit
        text.toList).filterMap (Finding.toDiagnostic? text.toList uri o.related)⟩ := by
  have hrules := loadConfig_lints d (s.rootWith d folder uri) s.base.rules
  simp only [Settings.lint, Settings.resolve, Settings.projectRoot_fst, Settings.projectRoot_base,
    Config.diagnostics, Config.check, hrules]

/-- What a pass leaves behind is what asking for the root leaves behind. -/
theorem Settings.lint_snd (s : Settings) (d : Disk) (folder : Option Path) (uri : Uri) (text : String)
    (o : PassOptions) : (s.lint d folder uri text o).2 = (s.projectRoot d folder uri).2 := rfl

/-! ## histories -/

/-- What happens after the start. -/
inductive HistoryStep where
  /-- Files change in some way; this is the disk after it. -/
  | edited (after : Disk)
  /-- A pass over a document, with the folder that the editor names at that moment, if it does. -/
  | linted (folder : Option Path) (uri : Uri) (text : String) (options : PassOptions)

/-- The disk and the settings at a moment. -/
structure HistoryState where
  disk : Disk
  settings : Settings

namespace HistoryState

/-- The start with some options. -/
def start (d : Disk) (o : Options) : HistoryState := ⟨d, Settings.ofOptions d o⟩

/-- The state after something happened. -/
def step (w : HistoryState) : HistoryStep → HistoryState
  | .edited after => { w with disk := after }
  | .linted folder uri text o => { w with settings := (w.settings.lint w.disk folder uri text o).2 }

/-- The state after a history. -/
def run (w : HistoryState) (history : List HistoryStep) : HistoryState := history.foldl step w

end HistoryState

/-- The root that a history leaves a document with: that of the first pass over it with a folder, as
it was found on the disk of that moment. -/
def firstRoot? (markers : List Marker) (uri : Uri) : Disk → List HistoryStep → Option Path
  | _, [] => none
  | _, .edited after :: rest => firstRoot? markers uri after rest
  | d, .linted none _ _ _ :: rest => firstRoot? markers uri d rest
  | d, .linted (some folder) other _ _ :: rest =>
    if uri.text = other.text then some (findRoot d folder other.filePath? markers)
    else firstRoot? markers uri d rest

/-- A history neither changes the markers nor the base rules. -/
theorem HistoryState.run_markers_base (w : HistoryState) (history : List HistoryStep) :
    (w.run history).settings.markers = w.settings.markers ∧
      (w.run history).settings.base = w.settings.base := by
  induction history generalizing w with
  | nil => exact ⟨rfl, rfl⟩
  | cons e rest ih =>
      obtain ⟨hm, hb⟩ := ih (w.step e)
      cases e with
      | edited after => exact ⟨hm, hb⟩
      | linted folder uri text o =>
          simp only [HistoryState.step, Settings.lint_snd, Settings.projectRoot_markers,
            Settings.projectRoot_base] at hm hb
          exact ⟨hm, hb⟩

/-- **What a history remembers** of a document is the root that it had at the start, or else the one
that the history leaves it with. -/
theorem HistoryState.knownRoot?_run (w : HistoryState) (history : List HistoryStep) (uri : Uri) :
    (w.run history).settings.knownRoot? uri =
      (w.settings.knownRoot? uri).or (firstRoot? w.settings.markers uri w.disk history) := by
  induction history generalizing w with
  | nil => simp [HistoryState.run, firstRoot?]
  | cons e rest ih =>
      have hrest := ih (w.step e)
      cases e with
      | edited after => exact hrest
      | linted folder other text o =>
          simp only [HistoryState.step, Settings.lint_snd, Settings.projectRoot_markers,
            Settings.knownRoot?_projectRoot] at hrest
          rw [HistoryState.run, List.foldl_cons]
          refine hrest.trans ?_
          -- only a pass over this document with a folder makes a difference
          cases folder with
          | none =>
              simp only [firstRoot?, Settings.rootWith, Option.map_none, Option.or_none]
              split
              · next heq => simp only [Settings.knownRoot?, heq]
              · rfl
          | some folder =>
              simp only [firstRoot?, Settings.rootWith, Option.map_some]
              split
              · next heq => simp only [Settings.knownRoot?, heq, Option.or_assoc, Option.some_or]
              · rfl

/-- The root in a longer history. -/
theorem firstRoot?_append (markers : List Marker) (uri : Uri) (w : HistoryState)
    (history more : List HistoryStep) :
    firstRoot? markers uri w.disk (history ++ more) =
      (firstRoot? markers uri w.disk history).or
        (firstRoot? markers uri (w.run history).disk more) := by
  induction history generalizing w with
  | nil => simp [HistoryState.run, firstRoot?]
  | cons e rest ih =>
      have hrest := ih (w.step e)
      rw [HistoryState.run, List.foldl_cons]
      cases e with
      | edited after => exact hrest
      | linted folder other text o =>
          cases folder with
          | none => exact hrest
          | some folder =>
              simp only [List.cons_append, firstRoot?]
              split
              · rfl
              · exact hrest

/-- The root that a document has in one more pass is the one that the history with this pass leaves
it with. -/
theorem HistoryState.rootWith_start_run (d₀ : Disk) (o : Options) (history : List HistoryStep)
    (folder : Option Path) (uri : Uri) (text : String) (options : PassOptions) :
    ((start d₀ o).run history).settings.rootWith ((start d₀ o).run history).disk folder uri =
      firstRoot? o.markers uri d₀ (history ++ [.linted folder uri text options]) := by
  have happend := firstRoot?_append o.markers uri (start d₀ o) history
    [.linted folder uri text options]
  have hknown : ((start d₀ o).run history).settings.knownRoot? uri =
      firstRoot? o.markers uri d₀ history := knownRoot?_run (start d₀ o) history uri
  have hmarkers : ((start d₀ o).run history).settings.markers = o.markers :=
    ((start d₀ o).run_markers_base history).1
  rw [Settings.rootWith, hknown, hmarkers]
  refine Eq.trans ?_ happend.symm
  congr 1
  cases folder <;> simp [firstRoot?]

/-! ## the main statement -/

/-- **One more pass** sends exactly one list of diagnostics, that of its document: the findings in its
text under the rules that the disk now has for the document's root, with the base rules of the
start.  So of two histories that end with the same disk, the same root and the same base rules, one
more pass sends the same. -/
theorem Server.publishText_after_history (d₀ : Disk) (o : Options) (history : List HistoryStep)
    (server : Server) (folder : Option Path) (uri : Uri) (text : String) (editor : Question → Reply) :
    let sends (d : Disk) (p : Options) (events : List HistoryStep) : List Dialogue.Sent :=
      let w := (HistoryState.start d p).run events
      (({ server with settings := w.settings }.publishText folder uri text w.disk).run w.disk editor).1
    let rootAfter (d : Disk) (p : Options) (events : List HistoryStep) : Option Path :=
      firstRoot? p.markers uri d (events ++ [.linted folder uri text server.passOptions])
    let now := ((HistoryState.start d₀ o).run history).disk
    sends d₀ o history =
        [.notice (.publish ⟨uri,
          (Config.check ⟨false, rulesFor now (rootAfter d₀ o history) (startRules d₀ o.baseRuleFiles)⟩
            server.limit text.toList).filterMap
              (Finding.toDiagnostic? text.toList uri server.flags.relatedInformation)⟩)] ∧
      ∀ (d₁ : Disk) (p : Options) (events : List HistoryStep),
        ((HistoryState.start d₁ p).run events).disk = now →
        rootAfter d₁ p events = rootAfter d₀ o history →
        startRules d₁ p.baseRuleFiles = startRules d₀ o.baseRuleFiles →
        sends d₁ p events = sends d₀ o history := by
  intro sends rootAfter now
  have hsends (d : Disk) (p : Options) (events : List HistoryStep) : sends d p events =
      [.notice (.publish ⟨uri,
        (Config.check ⟨false, rulesFor ((HistoryState.start d p).run events).disk (rootAfter d p events)
          (startRules d p.baseRuleFiles)⟩ server.limit text.toList).filterMap
            (Finding.toDiagnostic? text.toList uri server.flags.relatedInformation)⟩)] := by
    have hbase : ((HistoryState.start d p).run events).settings.base.rules = startRules d p.baseRuleFiles := by
      rw [((HistoryState.start d p).run_markers_base events).2]
      exact load_rules d p.baseRuleFiles
    have hroot := HistoryState.rootWith_start_run d p events folder uri text server.passOptions
    simp only [sends, rootAfter, Server.publishText, Dialogue.run, Settings.lint_fst, hbase, hroot]
    rfl
  refine ⟨hsends d₀ o history, ?_⟩
  intro d₁ p events hdisk hroot hrules
  rw [hsends, hsends, hdisk, hroot, hrules]

end LintServer
