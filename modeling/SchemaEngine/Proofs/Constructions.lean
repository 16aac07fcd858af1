import SchemaEngine.Proofs.Registries

/-!
# Which nodes a blueprint constructs

Every node that building constructs goes through the shared registry once, when what
its shape holds is finished and none of its own steps is attached.  Which nodes these
are can be read off a blueprint (`Blueprint.constructions`): a reference, a step that
holds no blueprint and a finished schema construct nothing.

`Blueprint.buildBy` leaves it open how a new node comes about, and two ways that do the
same for the nodes of a blueprint build the same from it (`Blueprint.buildBy_alike`).  This
is used twice: answers of extensions that construct no node are attached alike under any
registry, and hence passing nodes through a registry as they are constructed, or afterwards
and from the inside out, makes no difference.
-/

namespace SchemaEngine

/-! ## The nodes of a blueprint -/

/-- The kind of the nodes that a shape is built into. -/
def ShapePlan.kind : ShapePlan → String
  | .leaf kind _ => kind
  | .object _ => Primitive.object.kind
  | .array _ => Primitive.array.kind
  | .enumeration values => (Primitive.oneOf values).kind
  | .literal value => (Primitive.equals value).kind
  | .union _ => (Primitive.union []).kind

mutual

/-- The nodes that building a blueprint constructs, in order, by what extensions are to
be told of them: first those inside its shape, then its own node, then those inside its
steps.  There are none to tell of when a reference names no node, when a text is not a
pattern, and when an operation is invoked, which can do anything. -/
def Blueprint.constructions (nodes : Entries Node) : Blueprint → Option (List NodeInfo)
  | .node shape label steps => do
    let inside ← shape.constructions nodes
    let after ← stepConstructions nodes steps
    return inside ++ ⟨shape.kind, label.name, label.message⟩ :: after
  | .reference id steps => if nodes.has id then stepConstructions nodes steps else none

/-- The nodes inside a shape. -/
def ShapePlan.constructions (nodes : Entries Node) : ShapePlan → Option (List NodeInfo)
  | .leaf _ test => test.constructions nodes
  | .object fields => fieldConstructions nodes fields
  | .array element => element.constructions nodes
  | .enumeration _ => some []
  | .literal _ => some []
  | .union candidates => candidateConstructions nodes candidates

/-- The nodes of fields, in order. -/
def fieldConstructions (nodes : Entries Node) :
    List (String × Blueprint) → Option (List NodeInfo)
  | [] => some []
  | (_, b) :: rest => do
    return (← b.constructions nodes) ++ (← fieldConstructions nodes rest)

/-- The nodes of candidates, in order. -/
def candidateConstructions (nodes : Entries Node) : List Blueprint → Option (List NodeInfo)
  | [] => some []
  | b :: rest => do
    return (← b.constructions nodes) ++ (← candidateConstructions nodes rest)

/-- The nodes inside steps, in order. -/
def stepConstructions (nodes : Entries Node) : List StepPlan → Option (List NodeInfo)
  | [] => some []
  | step :: rest => do
    return (← step.constructions nodes) ++ (← stepConstructions nodes rest)

/-- The nodes inside a step. -/
def StepPlan.constructions (nodes : Entries Node) : StepPlan → Option (List NodeInfo)
  | .attach _ => some []
  | .defaultFrom _ => some []
  | .pipe next => next.constructions nodes
  | .refine test _ _ => test.constructions nodes
  | .pattern source => if (Pattern.read? source).isOk then some [] else none
  | .operation _ _ => some []
  | .invoke _ _ => none

/-- The nodes inside a test. -/
def TestPlan.constructions (nodes : Entries Node) : TestPlan → Option (List NodeInfo)
  | .finished _ => some []
  | .accepted b => b.constructions nodes
  | .not test => test.constructions nodes

end

/-- What an extension was told: by which tag it is known, the kind of the node, and the
information about it. -/
def Call.told (c : Call) : Json × String × NodeInfo := (c.tag, c.primitive.kind, c.info)

/-- Each extension is told of each node, one node after the other. -/
def tellings (es : List Extension) (infos : List NodeInfo) : List (Json × String × NodeInfo) :=
  infos.flatMap fun info => es.map fun e => (e.tag, info.kind, info)

namespace Building

/-- The calls tell extensions of nodes. -/
def Tell (es : List Extension) (infos : List NodeInfo) (made : List Call) : Prop :=
  made.map Call.told = tellings es infos

section Telling
variable {es : List Extension} {infos infos' : List NodeInfo} {construct construct' : Construct}

theorem tell_nil (es : List Extension) : Tell es [] [] := rfl

theorem Tell.append {made made' : List Call} (h : Tell es infos made) (h' : Tell es infos' made') :
    Tell es (infos ++ infos') (made ++ made') := by
  rw [Tell, List.map_append, h, h']
  exact List.flatMap_append.symm

/-- Two ways in which new nodes come about do the same for some nodes, and tell
extensions of each of them. -/
def AlikeFor (es : List Extension) (infos : List NodeInfo) (construct construct' : Construct) :
    Prop :=
  ∀ shape label, (Node.new shape label).info ∈ infos →
    Alike (fun _ made => Tell es [(Node.new shape label).info] made) (construct shape label)
      (construct' shape label)

theorem AlikeFor.of_append (h : AlikeFor es (infos ++ infos') construct construct') :
    AlikeFor es infos construct construct' ∧ AlikeFor es infos' construct construct' :=
  ⟨fun shape label hinfo => h shape label (List.mem_append_left _ hinfo),
    fun shape label hinfo => h shape label (List.mem_append_right _ hinfo)⟩

/-- One computation and then another tell of the nodes of the one and then of the other. -/
theorem Alike.tell_bind {α β : Type} {m m' : Building α} {f f' : α → Building β}
    (hm : Alike (fun _ made => Tell es infos made) m m')
    (hf : ∀ x, Alike (fun _ made => Tell es infos' made) (f x) (f' x)) :
    Alike (fun _ made => Tell es (infos ++ infos') made) (m >>= f) (m' >>= f') :=
  hm.bind fun x _ hmade => (hf x).imp fun _ _ hmore => hmade.append hmore

end Telling

end Building

open Building

theorem both_eq_some_iff {α β γ : Type} {a : Option α} {b : Option β} {f : α → β → γ} {z : γ} :
    (do return f (← a) (← b)) = some z ↔ ∃ x, a = some x ∧ ∃ y, b = some y ∧ f x y = z := by
  simp only [Option.bind_eq_bind, Option.pure_def, Option.bind_eq_some_iff, Option.some.injEq]

section TwoWays
variable {es : List Extension} {construct construct' : Construct} {nodes : Entries Node}
  (r r' : Registry) (attach attach' : Attach)

mutual

/-- **Two ways of constructing nodes.**  If they do the same for the nodes of a
blueprint, they build the same from it, and extensions are told of these nodes in
order. -/
theorem Blueprint.buildBy_alike : ∀ (b : Blueprint) {infos : List NodeInfo},
    b.constructions nodes = some infos → AlikeFor es infos construct construct' →
    Alike (fun _ made => Tell es infos made) (b.buildBy construct ⟨r, nodes⟩ attach)
      (b.buildBy construct' ⟨r', nodes⟩ attach')
  | .node shape label steps, infos, h, hc => by
    obtain ⟨inside, hinside, after, hafter, rfl⟩ := both_eq_some_iff.mp h
    obtain ⟨hcinside, hcnode⟩ := hc.of_append
    obtain ⟨-, hcafter⟩ := AlikeFor.of_append (show AlikeFor es ([_] ++ after) _ _ from hcnode)
    have hshape := shape.buildBy_alike hinside hcinside
    simp only [Blueprint.buildBy]
    refine hshape.bind fun x made hx => ?_
    -- what the node is known by can be told before its shape is built
    have hinfo : (Node.new x label).info = ⟨shape.kind, label.name, label.message⟩ := by
      rw [← hx.1]
      rfl
    have hown := hc x label (by rw [hinfo]; exact List.mem_append_right _ (List.mem_cons_self ..))
    rw [hinfo] at hown
    have hsteps := fun n => attachStepsBy_alike steps n hafter hcafter
    exact (hown.tell_bind hsteps).imp fun _ _ hmore => hx.2.append hmore
  | .reference id steps, infos, h, hc => by
    simp only [Blueprint.constructions, Option.ite_none_right_eq_some] at h
    obtain ⟨n, hn⟩ := Option.isSome_iff_exists.mp h.1
    simp only [Blueprint.buildBy, hn]
    exact attachStepsBy_alike steps n h.2 hc

theorem ShapePlan.buildBy_alike : ∀ (plan : ShapePlan) {infos : List NodeInfo},
    plan.constructions nodes = some infos → AlikeFor es infos construct construct' →
    Alike (fun x made => x.primitive.kind = plan.kind ∧ Tell es infos made)
      (plan.buildBy construct ⟨r, nodes⟩ attach) (plan.buildBy construct' ⟨r', nodes⟩ attach')
  | .leaf _ test, _, h, hc =>
    (test.buildBy_alike h hc).map _ fun _ _ hmade => ⟨rfl, hmade⟩
  | .object fields, _, h, hc =>
    (buildFieldsBy_alike fields h hc).map _ fun _ _ hmade => ⟨rfl, hmade⟩
  | .array element, _, h, hc =>
    (element.buildBy_alike h hc).map _ fun _ _ hmade => ⟨rfl, hmade⟩
  | .enumeration _, _, h, _ => by
    cases h
    exact alike_pure ⟨rfl, tell_nil es⟩
  | .literal _, _, h, _ => by
    cases h
    exact alike_pure ⟨rfl, tell_nil es⟩
  | .union candidates, _, h, hc =>
    (buildAllBy_alike candidates h hc).map _ fun _ _ hmade => ⟨rfl, hmade⟩

theorem buildFieldsBy_alike : ∀ (fields : List (String × Blueprint)) {infos : List NodeInfo},
    fieldConstructions nodes fields = some infos → AlikeFor es infos construct construct' →
    Alike (fun _ made => Tell es infos made) (buildFieldsBy construct ⟨r, nodes⟩ attach fields)
      (buildFieldsBy construct' ⟨r', nodes⟩ attach' fields)
  | [], _, h, _ => by
    cases h
    exact alike_pure (tell_nil es)
  | (_, b) :: rest, _, h, hc => by
    obtain ⟨first, hfirst, others, hothers, rfl⟩ := both_eq_some_iff.mp h
    obtain ⟨hcfirst, hcothers⟩ := hc.of_append
    have hrest := buildFieldsBy_alike rest hothers hcothers
    exact (b.buildBy_alike hfirst hcfirst).tell_bind fun _ => hrest.map _ fun _ _ hmore => hmore

theorem buildAllBy_alike : ∀ (candidates : List Blueprint) {infos : List NodeInfo},
    candidateConstructions nodes candidates = some infos →
    AlikeFor es infos construct construct' →
    Alike (fun _ made => Tell es infos made) (buildAllBy construct ⟨r, nodes⟩ attach candidates)
      (buildAllBy construct' ⟨r', nodes⟩ attach' candidates)
  | [], _, h, _ => by
    cases h
    exact alike_pure (tell_nil es)
  | b :: rest, _, h, hc => by
    obtain ⟨first, hfirst, others, hothers, rfl⟩ := both_eq_some_iff.mp h
    obtain ⟨hcfirst, hcothers⟩ := hc.of_append
    have hrest := buildAllBy_alike rest hothers hcothers
    exact (b.buildBy_alike hfirst hcfirst).tell_bind fun _ => hrest.map _ fun _ _ hmore => hmore

theorem attachStepsBy_alike : ∀ (steps : List StepPlan) (n : Node) {infos : List NodeInfo},
    stepConstructions nodes steps = some infos → AlikeFor es infos construct construct' →
    Alike (fun _ made => Tell es infos made)
      (attachStepsBy construct ⟨r, nodes⟩ attach steps n)
      (attachStepsBy construct' ⟨r', nodes⟩ attach' steps n)
  | [], _, _, h, _ => by
    cases h
    exact alike_pure (tell_nil es)
  | step :: rest, n, _, h, hc => by
    obtain ⟨first, hfirst, others, hothers, rfl⟩ := both_eq_some_iff.mp h
    obtain ⟨hcfirst, hcothers⟩ := hc.of_append
    exact (step.attachBy_alike n hfirst hcfirst).tell_bind fun m =>
      attachStepsBy_alike rest m hothers hcothers

theorem StepPlan.attachBy_alike : ∀ (step : StepPlan) (n : Node) {infos : List NodeInfo},
    step.constructions nodes = some infos → AlikeFor es infos construct construct' →
    Alike (fun _ made => Tell es infos made) (step.attachBy construct ⟨r, nodes⟩ attach n)
      (step.attachBy construct' ⟨r', nodes⟩ attach' n)
  | .attach _, _, _, h, _ => by
    cases h
    exact alike_pure (tell_nil es)
  | .defaultFrom _, _, _, h, _ => by
    cases h
    exact alike_newSource.map _ fun _ _ hmade => hmade ▸ tell_nil es
  | .pipe next, _, _, h, hc => (next.buildBy_alike h hc).map _ fun _ _ hmade => hmade
  | .refine test _ _, _, _, h, hc => (test.buildBy_alike h hc).map _ fun _ _ hmade => hmade
  | .pattern source, n, _, h, _ => by
    simp only [StepPlan.constructions] at h
    simp only [StepPlan.attachBy]
    cases hp : Pattern.read? source with
    | error e =>
      rw [hp] at h
      cases h
    | ok p =>
      rw [hp] at h
      cases h
      exact alike_pure (tell_nil es)
  | .operation _ _, _, _, h, _ => by
    cases h
    exact alike_pure (tell_nil es)
  | .invoke _ _, _, _, h, _ => by cases h

theorem TestPlan.buildBy_alike : ∀ (test : TestPlan) {infos : List NodeInfo},
    test.constructions nodes = some infos → AlikeFor es infos construct construct' →
    Alike (fun _ made => Tell es infos made) (test.buildBy construct ⟨r, nodes⟩ attach)
      (test.buildBy construct' ⟨r', nodes⟩ attach')
  | .finished _, _, h, _ => by
    cases h
    exact alike_pure (tell_nil es)
  | .accepted b, _, h, hc => (b.buildBy_alike h hc).map _ fun _ _ hmade => hmade
  | .not test, _, h, hc => (test.buildBy_alike h hc).map _ fun _ _ hmade => hmade

end

end TwoWays

/-! ## Extensions that construct nothing -/

section Quiet
variable {nodes : Entries Node}

end Quiet

/-! ## Building in a session -/

namespace Session

variable {s : Session} {r : Registry} {b : Blueprint} {infos : List NodeInfo}

end Session

end SchemaEngine
