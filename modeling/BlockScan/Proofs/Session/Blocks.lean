import BlockScan.Proofs.Session.Actions

/-!
# Blocks give back what was active

A program enters and leaves blocks in brackets, to any depth, and it may raise an error anywhere:
an action may fail, and so may what stands between two actions. An error goes out of the blocks
that are open, each of which is left on the way, up to where the program goes on in spite of it.
What such a program does in a session is a list of actions (`Program.course`).

Every program leaves the scope as it was, but for the configurations that it has set outside of
blocks with a configuration (`scope_after_course`). The main statement is `blocks_restore`.
-/

set_option autoImplicit false

namespace BlockScan

/-! ## Entering and leaving a block -/

section Pairs

variable {α : Type} {name : String} {pairs : List (String × α)}

/-- The last pair is found by its name when no other one has it. -/
theorem lookup_concat_of_not_mem (h : name ∉ pairs.map Prod.fst) (value : α) :
    (pairs ++ [(name, value)]).lookup name = some value := by
  induction pairs with
  | nil => simp
  | cons pair pairs ih =>
    rw [List.map_cons, List.mem_cons, not_or] at h
    rw [List.cons_append, List.lookup_cons, beq_false_of_ne h.1]
    exact ih h.2

/-- Taking out a new pair gives back the pairs before it. -/
theorem filter_concat_of_not_mem (h : name ∉ pairs.map Prod.fst) (value : α) :
    (pairs ++ [(name, value)]).filter (fun pair => pair.1 != name) = pairs := by
  have hkept : ∀ pair ∈ pairs, (pair.1 != name) = true := by
    intro pair hp
    rw [bne_iff_ne]
    rintro rfl
    exact h (List.mem_map_of_mem hp)
  rw [List.filter_append, List.filter_eq_self.2 hkept]
  simp

end Pairs

/-- A name that is longer than all of some names together. -/
def freshName (names : List String) : String :=
  String.ofList ('b' :: (names.map String.toList).flatten)

/-- A name that is longer than all of some names together is none of them. -/
theorem freshName_not_mem (names : List String) : freshName names ∉ names := by
  intro h
  have hle := (List.sublist_flatten_of_mem (List.mem_map_of_mem (f := String.toList) h)).length_le
  rw [freshName, String.toList_ofList, List.length_cons] at hle
  omega

namespace Scope

variable {ε : Type}

/-- Of some configurations that are made active, the last one is active in the end. -/
theorem foldl_setConfig (settings : List (ScanConfig ε)) (s : Scope ε) :
    settings.foldl setConfig s = s.setConfig (settings.getLastD s.context.config) := by
  induction settings generalizing s with
  | nil => rfl
  | cons c settings ih =>
    rw [List.foldl_cons, ih, List.getLastD_cons]
    rfl

/-- Leaving a block with a configuration gives back the scope before it, whatever configurations
were made active in the block. -/
theorem leaveConfig?_enterConfig {s : Scope ε} {name : String}
    (h : name ∉ s.configBlocks.map Prod.fst) (c : ScanConfig ε) (settings : List (ScanConfig ε)) :
    (settings.foldl setConfig (s.enterConfig name c)).leaveConfig? name = some s := by
  have hblocks : ((s.enterConfig name c).setConfig
      (settings.getLastD (s.enterConfig name c).context.config)).configBlocks =
      s.configBlocks ++ [(name, s.context.config)] := setPair_of_not_mem h _
  rw [foldl_setConfig, leaveConfig?, hblocks, lookup_concat_of_not_mem h,
    filter_concat_of_not_mem h]
  rfl

/-- Leaving a block with a profile gives back the scope before it, but for the configurations that
were made active in the block. -/
theorem leaveProfile?_enterProfile {s : Scope ε} {name : String}
    (h : name ∉ s.profileBlocks.map Prod.fst) (number : Nat) (settings : List (ScanConfig ε)) :
    (settings.foldl setConfig (s.enterProfile name number)).leaveProfile? name =
      some (settings.foldl setConfig s) := by
  have hblocks : ((s.enterProfile name number).setConfig
      (settings.getLastD (s.enterProfile name number).context.config)).profileBlocks =
      s.profileBlocks ++ [(name, s.context.profile)] := setPair_of_not_mem h _
  rw [foldl_setConfig, foldl_setConfig, leaveProfile?, hblocks, lookup_concat_of_not_mem h,
    filter_concat_of_not_mem h]
  rfl

end Scope

/-! ## Programs -/

/-- Whether a step has raised an error. -/
def StepResult.raises {ε : Type} : StepResult ε → Bool
  | .mk (.failed _) _ _ _ | .mk .unknown _ _ _ => true
  | _ => false

/-- A program of actions and blocks. -/
inductive Program (ε : Type) where
  | done
  | act (a : Action ε) (h : a.isBracket = false)
  /-- An error that comes from somewhere else. -/
  | raise
  /-- The second program is run unless the first one raises an error. -/
  | seq (first second : Program ε)
  | configBlock (config : Except ConfigError (ScanConfig ε)) (body : Program ε)
  | profileBlock (body : Program ε)
  /-- The program goes on when its body raises an error. -/
  | attempt (body : Program ε)

/-- What a program does in a session. -/
structure Course (ε : Type) where
  actions : List (Action ε)
  /-- Whether it ends with an error. -/
  raised : Bool

namespace Session

variable {ε : Type}

/-- The session after some actions. -/
def after (s : Session ε) (actions : List (Action ε)) : Session ε :=
  (runSteps (actions.map .action) s).2

/-- Without actions a session stays as it is. -/
theorem after_nil (s : Session ε) : s.after [] = s := rfl

/-- Actions are done one after the other. -/
theorem after_cons (s : Session ε) (a : Action ε) (actions : List (Action ε)) :
    s.after (a :: actions) = (s.act a).2.after actions := rfl

/-- A session after two lots of actions is the one after the second, begun where the first has
led. -/
theorem after_append (s : Session ε) (xs ys : List (Action ε)) :
    s.after (xs ++ ys) = (s.after xs).after ys := by
  induction xs generalizing s with
  | nil => rfl
  | cons a xs ih => rw [List.cons_append, after_cons, ih, after_cons]

/-- The action that enters a block with a configuration, under a name that no open block has. -/
def configEntry (s : Session ε) (config : Except ConfigError (ScanConfig ε)) : Action ε :=
  .enterConfig (freshName (s.scope.configBlocks.map Prod.fst)) config

/-- The action that leaves the block which was entered in a session. -/
def configExit (s : Session ε) : Action ε :=
  .leaveConfig (freshName (s.scope.configBlocks.map Prod.fst))

/-- The action that enters a block with a new profile, under a name that no open block has. -/
def profileEntry (s : Session ε) : Action ε :=
  .enterProfile (freshName (s.scope.profileBlocks.map Prod.fst))

/-- The action that leaves the block which was entered in a session. -/
def profileExit (s : Session ε) : Action ε :=
  .leaveProfile (freshName (s.scope.profileBlocks.map Prod.fst))

end Session

namespace Program

variable {ε : Type}

/-- The actions that a program does in a session. A block is left whether or not its body has raised
an error, and it is not entered when its configuration cannot be read. -/
def course : Program ε → Session ε → Course ε
  | .done, _ => ⟨[], false⟩
  | .act a _, s => ⟨[a], (s.act a).1.raises⟩
  | .raise, _ => ⟨[], true⟩
  | .seq first second, s =>
    let front := first.course s
    if front.raised then front
    else
      let back := second.course (s.after front.actions)
      ⟨front.actions ++ back.actions, back.raised⟩
  | .configBlock config body, s =>
    let (result, inner) := s.act (s.configEntry config)
    if result.raises then ⟨[s.configEntry config], true⟩
    else
      let middle := body.course inner
      ⟨s.configEntry config :: (middle.actions ++ [s.configExit]), middle.raised⟩
  | .profileBlock body, s =>
    let middle := body.course (s.act s.profileEntry).2
    ⟨s.profileEntry :: (middle.actions ++ [s.profileExit]), middle.raised⟩
  | .attempt body, s => ⟨(body.course s).actions, false⟩

/-- The configurations that a program makes active, one after the other, outside of blocks with a
configuration. -/
def settings : Program ε → Session ε → List (ScanConfig ε)
  | .done, _ | .raise, _ | .configBlock _ _, _ => []
  | .act a _, _ => a.setting?.toList
  | .seq first second, s =>
    let front := first.course s
    if front.raised then first.settings s
    else first.settings s ++ second.settings (s.after front.actions)
  | .profileBlock body, s => body.settings (s.act s.profileEntry).2
  | .attempt body, s => body.settings s

/-! ## What programs leave behind -/

-- By induction on the program, from any session: when a block is left, its name is still the name
-- of this block, because the body leaves the open blocks as they were.
/-- A program leaves the scope as it was, but for the configurations it has set outside of blocks:
induction on the program, with a block giving back the scope at its entry. -/
theorem scope_after_course (p : Program ε) (s : Session ε) :
    (s.after (p.course s).actions).scope = (p.settings s).foldl Scope.setConfig s.scope := by
  induction p generalizing s with
  | done => rfl
  | act a h => exact s.scope_act h
  | raise => rfl
  | seq first second ihFirst ihSecond =>
    rw [course, settings]
    cases hr : (first.course s).raised with
    | true =>
      simp only [if_true]
      exact ihFirst s
    | false =>
      simp only [Bool.false_eq_true, if_false]
      rw [Session.after_append, ihSecond, ihFirst, List.foldl_append]
  | configBlock config body ih =>
    cases config with
    | error e =>
      have hact : s.act (s.configEntry (.error e)) = (.ofAnswer (.failed (.config e)), s) := rfl
      have hcourse : course (.configBlock (.error e) body) s =
          ⟨[s.configEntry (.error e)], true⟩ := by
        rw [course, hact]
        rfl
      rw [hcourse, Session.after_cons, hact]
      rfl
    | ok c =>
      have hact : s.act (s.configEntry (.ok c)) = (.ofAnswer (.config c), ⟨s.store,
          s.scope.enterConfig (freshName (s.scope.configBlocks.map Prod.fst)) c⟩) := rfl
      have hcourse : (course (.configBlock (.ok c) body) s).actions = s.configEntry (.ok c) ::
          ((body.course (s.act (s.configEntry (.ok c))).2).actions ++ [s.configExit]) := by
        rw [course, hact]
        rfl
      rw [hcourse, Session.after_cons, Session.after_append, Session.after_cons, Session.after_nil,
        Session.configExit, Session.scope_act_leaveConfig, ih, hact,
        Scope.leaveConfig?_enterConfig (freshName_not_mem _)]
      rfl
  | profileBlock body ih =>
    have hcourse : (course (.profileBlock body) s).actions = s.profileEntry ::
        ((body.course (s.act s.profileEntry).2).actions ++ [s.profileExit]) := rfl
    have hscope : (s.act s.profileEntry).2.scope = s.scope.enterProfile
        (freshName (s.scope.profileBlocks.map Prod.fst)) s.store.profiles.length := rfl
    rw [hcourse, Session.after_cons, Session.after_append, Session.after_cons, Session.after_nil,
      Session.profileExit, Session.scope_act_leaveProfile, ih, hscope,
      Scope.leaveProfile?_enterProfile (freshName_not_mem _)]
    rfl
  | attempt body ih => exact ih s

/-- Whether or not its body raises an error, a block with a configuration gives back the
configuration that was active before it, and a block with a profile the profile, with the
configuration that its body has made active last. Leaving a block of the one sort never changes what
is active of the other. -/
theorem blocks_restore (s : Session ε) :
    (∀ (config : Except ConfigError (ScanConfig ε)) (body : Program ε),
      (s.after ((configBlock config body).course s).actions).scope.context = s.scope.context) ∧
    (∀ body : Program ε,
      (s.after ((profileBlock body).course s).actions).scope.context.profile =
        s.scope.context.profile ∧
      (s.after ((profileBlock body).course s).actions).scope.context.config =
        (body.settings (s.act s.profileEntry).2).getLastD s.scope.context.config) ∧
    ∀ name : String,
      (s.act (.leaveConfig name)).2.scope.context.profile = s.scope.context.profile ∧
      (s.act (.leaveProfile name)).2.scope.context.config = s.scope.context.config := by
  refine ⟨?_, ?_, ?_⟩
  · intro config body
    rw [scope_after_course]
    rfl
  · intro body
    rw [scope_after_course, Scope.foldl_setConfig]
    exact ⟨rfl, rfl⟩
  · intro name
    rw [Session.scope_act_leaveConfig, Session.scope_act_leaveProfile]
    unfold Scope.leaveConfig? Scope.leaveProfile?
    constructor
    · cases s.scope.configBlocks.lookup name <;> rfl
    · cases s.scope.profileBlocks.lookup name <;> rfl

end Program

end BlockScan
