import LintServer.Server.Dialogue

/-!
# Traces of dialogues

`Dialogue.run` carries a dialogue to its end while the disk stays as it is and the editor always answers
the same.  Here the environment may change at any time: what the server sees when it looks at the disk,
and what it hears when it asks, depends on the time, and the time goes on with everything that happens.

* `Dialogue.trace` — everything that happens in a dialogue, and how it ends;
* `trace_bind` — a dialogue after a dialogue;
* `run_eq_trace` — in an environment that stays as it is, this is `Dialogue.run`, so `run_bind` follows;
* `published` — what is published in all that happens, which is what is published in all that is sent;
* `Dialogue.Quietly` — dialogues that publish nothing, put together from smaller ones.
-/

namespace LintServer

/-! ## what happens -/

/-- What happens in a dialogue. -/
inductive Interaction where
  | told (notice : Notice)
  | asked (question : Question) (reply : Reply)
  | looked (disk : Disk)

/-- What the server sends in an interaction. -/
def Interaction.sent? : Interaction → Option Dialogue.Sent
  | .told n => some (.notice n)
  | .asked q _ => some (.question q)
  | .looked _ => none

/-- What is published by something that is sent. -/
def Dialogue.Sent.publication? : Dialogue.Sent → Option Publication
  | .notice (.publish p) => some p
  | _ => none

/-- Only a notice publishes something. -/
theorem Dialogue.Sent.of_publication? {x : Dialogue.Sent} {p : Publication} (h : x.publication? = some p) :
    x = .notice (.publish p) := by
  unfold publication? at h
  split at h
  · rw [Option.some.inj h]
  · cases h

/-- Everything that is published in what is sent, in order. -/
def publications (sent : List Dialogue.Sent) : List Publication :=
  sent.filterMap Dialogue.Sent.publication?

/-- Everything that is published in what happens, in order. -/
def published (xs : List Interaction) : List Publication :=
  publications (xs.filterMap Interaction.sent?)

@[simp] theorem publications_append (sent more : List Dialogue.Sent) :
    publications (sent ++ more) = publications sent ++ publications more := List.filterMap_append

@[simp] theorem published_nil : published [] = [] := rfl

@[simp] theorem published_append (xs more : List Interaction) :
    published (xs ++ more) = published xs ++ published more := by
  simp [published, List.filterMap_append]

@[simp] theorem published_publish (p : Publication) : published [.told (.publish p)] = [p] := rfl

/-- The disk and the editor, at each time. -/
structure Environment where
  disk : Nat → Disk
  reply : Nat → Question → Reply

/-- A dialogue that was carried to its end: what happened, the time after it, and its value. -/
structure Trace (α : Type) where
  interactions : List Interaction
  time : Nat
  value : α

/-- What happened in two dialogues, the second of which is carried to its end. -/
def Trace.followedBy (p : Trace α) (q : Trace β) : Trace β :=
  { q with interactions := p.interactions ++ q.interactions }

namespace Dialogue

/-- Carries a dialogue to its end that begins at some time. -/
def trace (w : Environment) (time : Nat) : Dialogue α → Trace α
  | .done a => ⟨[], time, a⟩
  | .tell n next =>
    let p := next.trace w (time + 1)
    { p with interactions := .told n :: p.interactions }
  | .ask q next =>
    let p := (next (w.reply time q)).trace w (time + 1)
    { p with interactions := .asked q (w.reply time q) :: p.interactions }
  | .look _ next =>
    let p := (next (w.disk time)).trace w (time + 1)
    { p with interactions := .looked (w.disk time) :: p.interactions }

/-! ## dialogues one after the other -/

/-- **A dialogue after a dialogue**: what happens in it follows, and it begins when the first one ends. -/
theorem trace_bind (w : Environment) (time : Nat) (d : Dialogue α) (f : α → Dialogue β) :
    (d >>= f).trace w time =
      (d.trace w time).followedBy ((f (d.trace w time).value).trace w (d.trace w time).time) := by
  change (d.andThen f).trace w time = _
  induction d generalizing time with
  | done a => rfl
  | tell n next ih => simp only [andThen, trace, ih, Trace.followedBy, List.cons_append]
  | ask q next ih => simp only [andThen, trace, ih, Trace.followedBy, List.cons_append]
  | look p next ih => simp only [andThen, trace, ih, Trace.followedBy, List.cons_append]

/-- To end after a dialogue with its own value adds nothing. -/
theorem bind_done (d : Dialogue α) : (d >>= fun a => .done a) = d := by
  change d.andThen .done = d
  induction d with
  | done a => rfl
  | tell n next ih => rw [andThen, ih]
  | ask q next ih => simp only [andThen, ih]
  | look p next ih => simp only [andThen, ih]

/-- **In an environment that stays as it is**, what the server sends and how the dialogue ends is what
`Dialogue.run` gives. -/
theorem run_eq_trace (d : Disk) (editor : Question → Reply) (time : Nat) (dialogue : Dialogue α) :
    dialogue.run d editor =
      ((dialogue.trace ⟨fun _ => d, fun _ => editor⟩ time).interactions.filterMap Interaction.sent?,
        (dialogue.trace ⟨fun _ => d, fun _ => editor⟩ time).value) := by
  induction dialogue generalizing time with
  | done a => rfl
  | tell n next ih => simp only [run, trace, ih (time + 1), Interaction.sent?, List.filterMap_cons]
  | ask q next ih =>
      simp only [run, trace, ih (editor q) (time + 1), Interaction.sent?, List.filterMap_cons]
  | look p next ih => simp only [run, trace, ih d (time + 1), Interaction.sent?, List.filterMap_cons]

/-- So a dialogue after a dialogue sends what the first one sends and then what the second one does. -/
theorem run_bind (d : Disk) (editor : Question → Reply) (dialogue : Dialogue α) (f : α → Dialogue β) :
    (dialogue >>= f).run d editor =
      ((dialogue.run d editor).1 ++ ((f (dialogue.run d editor).2).run d editor).1,
        ((f (dialogue.run d editor).2).run d editor).2) := by
  generalize hfirst : dialogue.trace ⟨fun _ => d, fun _ => editor⟩ 0 = first
  have hrun : dialogue.run d editor = (first.interactions.filterMap Interaction.sent?, first.value) :=
    hfirst ▸ run_eq_trace d editor 0 dialogue
  rw [run_eq_trace d editor 0 (dialogue >>= f), trace_bind, hfirst, hrun,
    run_eq_trace d editor first.time (f first.value), Trace.followedBy, List.filterMap_append]

/-! ## dialogues that publish nothing -/

/-- A dialogue that publishes nothing and ends with a value of some kind, whatever the environment. -/
def Quietly (P : α → Prop) (dialogue : Dialogue α) : Prop :=
  ∀ w time, published (dialogue.trace w time).interactions = [] ∧ P (dialogue.trace w time).value

theorem quietly_done {P : α → Prop} {a : α} (h : P a) : Quietly P (done a) :=
  fun _ _ => ⟨rfl, h⟩

/-- To log something publishes nothing. -/
theorem Quietly.log {P : α → Prop} {next : Dialogue α} (h : Quietly P next) (level : LogLevel)
    (text : String) : Quietly P (tell (.log level text) next) :=
  fun w time => h w (time + 1)

/-- To ask publishes nothing. -/
theorem quietly_ask {P : α → Prop} {next : Reply → Dialogue α} (h : ∀ r, Quietly P (next r))
    (q : Question) : Quietly P (ask q next) :=
  fun w time => h (w.reply time q) w (time + 1)

/-- To look publishes nothing. -/
theorem quietly_look {P : α → Prop} {next : Disk → Dialogue α} (h : ∀ d, Quietly P (next d))
    (paths : List Path) : Quietly P (look paths next) :=
  fun w time => h (w.disk time) w (time + 1)

/-- Neither does one such dialogue after another. -/
theorem Quietly.bind {P : α → Prop} {Q : β → Prop} {d : Dialogue α} {f : α → Dialogue β}
    (hd : Quietly P d) (hf : ∀ a, P a → Quietly Q (f a)) : Quietly Q (d >>= f) := by
  intro w time
  obtain ⟨hnone, ha⟩ := hd w time
  obtain ⟨hmore, hb⟩ := hf _ ha w (d.trace w time).time
  rw [trace_bind]
  refine ⟨?_, hb⟩
  simp only [Trace.followedBy, published_append, hnone, hmore, List.append_nil]

end Dialogue

end LintServer
