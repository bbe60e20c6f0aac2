import Mooring.Proofs.Lifecycle.Watch

set_option autoImplicit false

/-!
# A pool seen from one record

A watch shows a pool when it has the record, the lock and the calls of the finalizer right, and
every task keeps to the rules from the phase that the watch gives it. Every move of a pool is then a
step of the watch (`Shows.move`), so that a run of the pool is a run of the watch (`Shows.follow`)
and has the invariants of `Mooring.Proofs.Lifecycle.Watch`.
-/

namespace Mooring.Tracker

variable {σ : Type} {s : Surroundings σ} {world : World σ} {id : Int} {w : Watch} {i : Nat}

/-! ## What an action does to one record -/

/-- An action that has nothing to do with a record leaves it and its lock alone. -/
theorem perform_of_not_touches (s : Surroundings σ) (world : World σ) {action : Action}
    (htame : IsTame action) (h : touches id action = false) :
    (s.perform world action).2.store.get? id = world.store.get? id ∧
      (s.perform world action).2.held.count id = world.held.count id ∧
      action.finalizes id = false := by
  cases action with
  | insert record => exact htame.elim
  | append other entry =>
    have hne : id ≠ other := fun he => by simp [touches, he] at h
    exact ⟨Store.get?_append_of_ne s.shelf world.outside _ hne, rfl, rfl⟩
  | update other change =>
    have hne : id ≠ other := fun he => by simp [touches, he] at h
    refine ⟨?_, ?_, rfl⟩
    · rw [Surroundings.snd_perform_update]
      exact Store.get?_update_of_ne s.shelf world.outside (fun c => (htame c).1) hne
    · rw [Surroundings.snd_perform_update]
      rfl
  | lock other =>
    have hne : other ≠ id := fun he => by simp [touches, he] at h
    exact ⟨rfl, List.count_cons_of_ne hne, rfl⟩
  | unlock other =>
    have hne : id ≠ other := fun he => by simp [touches, he] at h
    exact ⟨rfl, List.count_erase_of_ne hne, rfl⟩
  | finalizer c => exact ⟨rfl, rfl, h⟩
  | send event =>
    refine ⟨?_, ?_, rfl⟩ <;>
    · unfold Surroundings.perform
      split <;> rfl
  | _ => exact ⟨rfl, rfl, rfl⟩

/-- Where changes are saved, an entry is refused or the record has it. -/
theorem perform_append (hs : s.Saves) {c : Container} (hc : world.store.get? id = some c)
    (entry : Instant → HistoryEntry) :
    (c.append? (entry (s.now world.outside)) = none ∧
      s.perform world (.append id entry) = (.ok none, world)) ∨
    (∃ d change, c.append? (entry (s.now world.outside)) = some d ∧
      (s.perform world (.append id entry)).1 = .ok (some change) ∧
      (s.perform world (.append id entry)).2.store.get? id = some d ∧
      (s.perform world (.append id entry)).2.held = world.held) := by
  rcases Store.append_of_saves world.outside hs hc (entry (s.now world.outside)) with
    ⟨hd, hr⟩ | ⟨d, hd, hr⟩
  · exact .inl ⟨hd, congrArg world.afterStore hr⟩
  · have hp : s.perform world (.append id entry) = World.afterStore world _ :=
      congrArg world.afterStore hr
    refine .inr ⟨d, ⟨c.status, d.status⟩, hd, ?_, ?_, ?_⟩
    · rw [hp]
      rfl
    · -- the record keeps its identifier, and is found under it
      rw [hp]
      exact Store.get?_put_of_append? hc hd
    · rw [hp]
      rfl

/-- Where changes are saved, the changed record stands in the store and is the answer. -/
theorem perform_update (hs : s.Saves) {c : Container} (hc : world.store.get? id = some c)
    {change : Container → Container} (htame : IsTame (.update id change)) :
    (s.perform world (.update id change)).1 = .ok (change c) ∧
      (s.perform world (.update id change)).2.store.get? id = some (change c) ∧
      (s.perform world (.update id change)).2.held = world.held := by
  have hget : ((world.store.indexed (change c)).put (change c)).get? id = some (change c) :=
    Store.get?_put_of_eq ((htame c).1.trans (Store.databaseId_of_get? hc))
  have hp : s.perform world (.update id change) = World.withRecord id (World.afterStore world _) :=
    congrArg (fun r => World.withRecord id (world.afterStore r))
      (Store.update_of_saves world.outside hs hc change)
  have hwith : ∀ w : World σ, w.store.get? id = some (change c) →
      World.withRecord id (.ok (), w) = (.ok (change c), w) := by
    intro w hw
    simp only [World.withRecord, hw]
  rw [hp]
  unfold World.afterStore
  rw [hwith _ hget]
  exact ⟨rfl, hget, rfl⟩

/-! ## Actions as steps -/

/-- Whether a watch shows a world: it has the record and the lock right. -/
structure Reflects (id : Int) (world : World σ) (w : Watch) : Prop where
  record : w.record = world.store.get? id
  locked : world.held.count id = if w.locked then 1 else 0

/-- Where changes are saved, answers are as they can be expected. -/
theorem expected_perform (hs : s.Saves) {action : Action} (htame : IsTame action)
    (hw : Reflects id world w) (inv : w.Sound) :
    Expected id (w.phase i) action (s.perform world action).1 := by
  have known : (w.phase i).needsRecord = true → ∃ c, world.store.get? id = some c := by
    intro hn
    rw [← hw.record]
    exact Option.isSome_iff_exists.1 (inv.known i hn)
  cases action with
  | get other => exact fun c hc => Store.databaseId_of_get? hc
  | append other entry =>
    rintro rfl hn hentry
    obtain ⟨c, hc⟩ := known hn
    rcases perform_append hs hc entry with ⟨hrefused, -⟩ | ⟨d, change, -, hr, -⟩
    · -- an entry without a time of the engine is no duplicate
      unfold Container.append? at hrefused
      rw [Container.records_of_externalTime (hentry _)] at hrefused
      cases hrefused
    · exact ⟨change, hr⟩
  | update other change =>
    rintro rfl hn
    obtain ⟨c, hc⟩ := known hn
    exact ⟨change c, (perform_update hs hc htame).1,
      (htame c).1.trans (Store.databaseId_of_get? hc)⟩
  | _ => trivial

/-- The watch after an action of the task at a place. -/
structure After (id : Int) (world : World σ) (action : Action) (i : Nat) (phase : Phase)
    (w w' : Watch) : Prop where
  step : Watch.Step w w'
  shows : Reflects id world w'
  calls : w'.calls = w.calls + [action].countP (Action.finalizes id)
  phase : ∀ j, w'.phase j = if j = i then phase else w.phase j

/-- Nothing is seen of an action. -/
theorem After.unseen {action : Action} (hw : Reflects id world w)
    (h : action.finalizes id = false) : After id world action i (w.phase i) w w where
  step := .aside
  shows := hw
  calls := by simp [h]
  phase := w.phase_eq_ite i

/-- An entry is appended to the record and seen, or is refused. -/
theorem After.of_append (hs : s.Saves) (hw : Reflects id world w)
    {entry : Instant → HistoryEntry} {phase : Phase}
    (hsaved : ∀ c d change, w.record = some c →
      c.append? (entry (s.now world.outside)) = some d →
      (s.perform world (.append id entry)).1 = .ok (some change) →
      Watch.Step w ((w.become d).enter i phase))
    (hrefused : (∀ change, (s.perform world (.append id entry)).1 ≠ .ok (some change)) →
      phase = w.phase i) :
    ∃ w', After id (s.perform world (.append id entry)).2 (.append id entry) i phase w w' := by
  have stays : (∀ change, (s.perform world (.append id entry)).1 ≠ .ok (some change)) →
      (s.perform world (.append id entry)).2.store = world.store →
      (s.perform world (.append id entry)).2.held = world.held →
      ∃ w', After id (s.perform world (.append id entry)).2 (.append id entry) i phase w w' := by
    intro hr hstore hheld
    rw [hrefused hr]
    exact ⟨w, .unseen ⟨by rw [hstore, hw.record], by rw [hheld, hw.locked]⟩ rfl⟩
  cases hc : world.store.get? id with
  | none =>
    -- where there is no record the answer is an error
    have hp : s.perform world (.append id entry) = World.afterStore world _ :=
      congrArg world.afterStore
        (Store.append_of_none s.shelf world.outside hc (entry (s.now world.outside)))
    rw [hp] at stays ⊢
    exact stays (fun change h => nomatch h) rfl rfl
  | some c =>
    rcases perform_append hs hc entry with ⟨-, hp⟩ | ⟨d, change, hd, hr, hget, hheld⟩
    · rw [hp] at stays ⊢
      exact stays (fun change h => nomatch h) rfl rfl
    · refine ⟨_, hsaved c d change (hw.record.trans hc) hd hr, ⟨hget.symm, ?_⟩, rfl, fun j => ?_⟩
      · rw [hheld]
        exact hw.locked
      · exact Watch.phase_enter ..

/-- Every action that keeps to the rules is a step of the watch. -/
theorem exists_after (hs : s.Saves) {action : Action} {phase : Phase} (htame : IsTame action)
    (hready : world.ready action = true) (hw : Reflects id world w)
    (ha : Allowed id (w.phase i) action (s.perform world action).1 phase) :
    ∃ w', After id (s.perform world action).2 action i phase w w' := by
  generalize hr : (s.perform world action).1 = r at ha
  generalize hbefore : w.phase i = before at ha
  cases ha with
  | aside h =>
    -- neither the record nor its lock nor the calls of the finalizer change
    obtain ⟨hget, hcount, hcalls⟩ := perform_of_not_touches s world htame h
    rw [← hbefore]
    exact ⟨w, .unseen ⟨hw.record.trans hget.symm, hcount.trans hw.locked⟩ hcalls⟩
  | @change _ change =>
    rw [← hbefore]
    cases hc : world.store.get? id with
    | none =>
      have hp : s.perform world (.update id change) =
          World.withRecord id (World.afterStore world _) :=
        congrArg (fun r => World.withRecord id (world.afterStore r))
          (Store.update_of_none s.shelf world.outside hc change)
      rw [hp]
      exact ⟨w, .unseen hw rfl⟩
    | some c =>
      obtain ⟨-, hget, hheld⟩ := perform_update hs hc htame
      refine ⟨w.become (change c),
        .change (hw.record.trans hc) (htame c).2.1 (htame c).2.2, ⟨hget.symm, ?_⟩, rfl, ?_⟩
      · rw [hheld]
        exact hw.locked
      · exact w.phase_eq_ite i
  | observe origin exit =>
    -- the task stays in its phase, whether the entry is saved or refused
    refine After.of_append hs hw (fun c d change hc hd hsaved => ?_) fun _ => hbefore.symm
    rw [Watch.enter_of_eq hbefore]
    refine .observe hc hd (origin _) ?_
    rcases exit with hexit | hnone
    · exact hexit _
    · exact absurd (hr.symm.trans hsaved) (hnone change)
  | report origin =>
    exact After.of_append hs hw (fun c d change hc hd _ => .report hbefore hc hd (origin _))
      fun hnone => absurd hr (hnone _)
  | missing missing =>
    refine After.of_append hs hw (fun c d change hc hd hsaved => ?_) fun _ => hbefore.symm
    rw [Watch.enter_of_eq hbefore]
    exact .missing hc hd (missing _)
  | lock h =>
    -- the action can happen, so that the lock is not held
    have hcount : world.held.count id = 0 := by
      simpa [World.ready, List.count_eq_zero] using hready
    have hunlocked : w.locked = false := by
      have := hw.locked
      grind
    refine ⟨_, .lock (hbefore ▸ h) hunlocked, ⟨hw.record, ?_⟩, rfl, fun j => Watch.phase_enter ..⟩
    show (id :: world.held).count id = 1
    rw [List.count_cons_self, hcount]
  | skip h =>
    refine ⟨_, .skip hbefore fun c hc => h c ?_, ⟨hw.record, hw.locked⟩, rfl,
      fun j => Watch.phase_enter ..⟩
    rw [← hr, ← hc, hw.record]
    rfl
  | clear h =>
    exact ⟨_, .clear hbefore (hw.record.trans hr) h, ⟨hw.record, hw.locked⟩, rfl,
      fun j => Watch.phase_enter ..⟩
  | begin opening =>
    exact After.of_append hs hw (fun c d change hc hd _ => .begin hbefore hc hd (opening _))
      fun hnone => absurd hr (hnone _)
  | call h =>
    refine ⟨_, .call hbefore, ⟨hw.record, hw.locked⟩, ?_, fun j => Watch.phase_enter ..⟩
    simp [Action.finalizes, h]
  | conclude ending other =>
    exact After.of_append hs hw
      (fun c d change hc hd _ => .conclude hbefore hc hd (ending _) (other _))
      fun hnone => absurd hr (hnone _)
  | unlock =>
    refine ⟨_, .unlock hbefore, ⟨hw.record, ?_⟩, rfl, fun j => Watch.phase_enter ..⟩
    show (world.held.erase id).count id = 0
    rw [List.count_erase_self, hw.locked]
    split <;> rfl

/-! ## Moves as steps -/

/-- Whether a watch shows a pool: it has the record, its lock and the calls of the finalizer right,
and all tasks keep to the rules from the phases they are in. -/
structure Shows (p : Pool σ) (id : Int) (w : Watch) : Prop where
  world : Reflects id p.world w
  calls : w.calls = p.calls id
  keeps : ∀ i t, p.tasks[i]? = some t → Keeps id (Settles id) t (w.phase i)
  idle : ∀ i, p.tasks.length ≤ i → w.phase i = .free
  sound : w.Sound

namespace Shows

variable {p q : Pool σ}

/-- In a fresh pool nothing has happened. -/
theorem fresh (store : Store) (outside : σ) (id : Int) :
    Shows (Pool.fresh store outside) id (.initial (store.get? id)) where
  world := ⟨rfl, rfl⟩
  calls := rfl
  keeps _ _ h := nomatch h
  idle _ _ := rfl
  sound := .initial _

/-- A call starts free of the record. -/
theorem call (h : Shows p id w) (c : Call) :
    Shows { p with tasks := p.tasks ++ [c.task] } id w where
  world := h.world
  calls := h.calls
  keeps i t ht := by
    by_cases hi : i < p.tasks.length
    · rw [List.getElem?_append_left hi] at ht
      exact h.keeps i t ht
    · rw [h.idle i (by omega)]
      have hmem : t ∈ [c.task] := by
        rw [List.getElem?_append_right (by omega)] at ht
        exact List.mem_of_getElem? ht
      rw [List.mem_singleton.1 hmem]
      exact keeps_task c
  idle i hi := h.idle i (by simp only [List.length_append] at hi; omega)
  sound := h.sound

/-- What happens outside is not seen. -/
theorem elapse (h : Shows p id w) (outside : σ) :
    Shows { p with world := { p.world with outside } } id w where
  world := ⟨h.world.record, h.world.locked⟩
  calls := h.calls
  keeps := h.keeps
  idle := h.idle
  sound := h.sound

/-- The action of a task is a step. -/
theorem perform (hs : s.Saves) (h : Shows p id w) {action : Action}
    {next : action.Answer → Task} (hi : p.tasks[i]? = some (.step action next))
    (hready : p.world.ready action = true) :
    ∃ w', Watch.Step w w' ∧ Shows
      { world := (s.perform p.world action).2,
        tasks := p.tasks.set i (next (s.perform p.world action).1),
        performed := p.performed ++ [action] } id w' := by
  -- the answer is one that can be expected, so that the rules say how the task goes on
  obtain ⟨htame, hkeeps⟩ := h.keeps i _ hi
  obtain ⟨phase, hallowed, hnext⟩ := hkeeps _ (expected_perform hs htame h.world h.sound)
  obtain ⟨w', hw'⟩ := exists_after hs htame hready h.world hallowed
  have hlt : i < p.tasks.length := (List.getElem?_eq_some_iff.1 hi).1
  refine ⟨w', hw'.step, hw'.shows, ?_, ?_, ?_, h.sound.preserve hw'.step⟩
  · rw [hw'.calls, h.calls]
    exact List.countP_append.symm
  · intro j t ht
    rw [hw'.phase]
    by_cases hj : j = i
    · -- the task itself is in the phase that the action leads to
      subst hj
      rw [List.getElem?_set_self hlt] at ht
      obtain rfl := Option.some.inj ht
      rw [if_pos rfl]
      exact hnext
    · rw [List.getElem?_set_ne (Ne.symm hj)] at ht
      rw [if_neg hj]
      exact h.keeps j t ht
  · intro j hj
    rw [List.length_set] at hj
    rw [hw'.phase, if_neg (by omega)]
    exact h.idle j hj

/-- The tasks after a task handed over to finalizations. -/
theorem tasks_hand {ids : List Int} {j : Nat} {t : Task} (hi : p.tasks[i]? = some (.done ids))
    (ht : (p.tasks.set i (.done []) ++ ids.map fun id => (Call.finalize id).task)[j]? = some t) :
    (j = i ∧ t = .done []) ∨ (j ≠ i ∧ p.tasks[j]? = some t) ∨
      ∃ k other, j = p.tasks.length + k ∧ ids[k]? = some other ∧
        t = (Call.finalize other).task := by
  have hlt : i < p.tasks.length := (List.getElem?_eq_some_iff.1 hi).1
  by_cases hj : j < p.tasks.length
  · rw [List.getElem?_append_left (by rwa [List.length_set])] at ht
    by_cases hji : j = i
    · subst hji
      rw [List.getElem?_set_self hlt] at ht
      exact .inl ⟨rfl, (Option.some.inj ht).symm⟩
    · rw [List.getElem?_set_ne (Ne.symm hji)] at ht
      exact .inr (.inl ⟨hji, ht⟩)
  · rw [List.getElem?_append_right (by rw [List.length_set]; omega), List.length_set,
      List.getElem?_map, Option.map_eq_some_iff] at ht
    obtain ⟨other, hother, rfl⟩ := ht
    exact .inr (.inr ⟨j - p.tasks.length, other, by omega, hother, rfl⟩)

/-- A task that owes nothing hands over unseen, and one that owes the finalization of the record
hands it to the first that was asked for. -/
theorem hand (h : Shows p id w) {ids : List Int} (hi : p.tasks[i]? = some (.done ids)) :
    ∃ w', Watch.Step w w' ∧ Shows { p with
      tasks := p.tasks.set i (.done []) ++ ids.map fun id => (Call.finalize id).task } id w' := by
  have hlt : i < p.tasks.length := (List.getElem?_eq_some_iff.1 hi).1
  have beyond : ∀ {j}, (p.tasks.set i (.done []) ++
      ids.map fun id => (Call.finalize id).task).length ≤ j → p.tasks.length + ids.length ≤ j := by
    intro j hj
    simpa using hj
  rcases h.keeps i _ hi with hfree | ⟨howing, hmem⟩
  · -- nothing is owed, so that all finalizations start free
    refine ⟨w, .aside, h.world, h.calls, ?_, fun j hj => h.idle j ?_, h.sound⟩
    · intro j t ht
      rcases tasks_hand hi ht with ⟨rfl, rfl⟩ | ⟨-, htask⟩ | ⟨k, other, rfl, -, rfl⟩
      · exact .inl hfree
      · exact h.keeps j t htask
      · rw [h.idle _ (Nat.le_add_right ..)]
        exact keeps_task _
    · have := beyond hj
      omega
  · -- the finalization of the record takes over what is owed
    obtain ⟨k, hk⟩ := List.mem_iff_getElem?.1 hmem
    have hklt : k < ids.length := (List.getElem?_eq_some_iff.1 hk).1
    have htaker : w.phase (p.tasks.length + k) = .free := h.idle _ (Nat.le_add_right ..)
    have hstep : Watch.Step w ((w.enter i .free).enter (p.tasks.length + k) .owing) :=
      .hand howing htaker
    refine ⟨_, hstep, ⟨h.world.record, h.world.locked⟩, h.calls, ?_, ?_, h.sound.preserve hstep⟩
    · intro j t ht
      rw [Watch.phase_enter, Watch.phase_enter]
      rcases tasks_hand hi ht with ⟨rfl, rfl⟩ | ⟨hne, htask⟩ | ⟨l, other, rfl, hl, rfl⟩
      · rw [if_neg (by omega), if_pos rfl]
        exact .inl rfl
      · have hj : j < p.tasks.length := (List.getElem?_eq_some_iff.1 htask).1
        rw [if_neg (by omega), if_neg hne]
        exact h.keeps j t htask
      · by_cases hlk : l = k
        · subst hlk
          obtain rfl := Option.some.inj (hl.symm.trans hk)
          rw [if_pos rfl]
          exact keeps_task_finalize_owing
        · rw [if_neg (by omega), if_neg (by omega), h.idle _ (Nat.le_add_right ..)]
          exact keeps_task _
    · intro j hj
      have := beyond hj
      rw [Watch.phase_enter, Watch.phase_enter, if_neg (by omega), if_neg (by omega)]
      exact h.idle j (by omega)

/-- Every move is a step. -/
theorem move (hs : s.Saves) (h : Shows p id w) {m : Move σ} (hm : p.move? s m = some q) :
    ∃ w', Watch.Step w w' ∧ Shows q id w' := by
  cases m with
  | call c =>
    obtain rfl := Option.some.inj hm
    exact ⟨w, .aside, h.call c⟩
  | advance i =>
    rcases Pool.advance?_cases hm with ⟨ids, hi, rfl⟩ | ⟨action, next, hi, hready, rfl⟩
    · exact h.hand hi
    · exact h.perform hs hi hready
  | elapse outside =>
    obtain rfl := Option.some.inj hm
    exact ⟨w, .aside, h.elapse outside⟩

/-- Every run is a run of steps. -/
theorem follow (hs : s.Saves) (h : Shows p id w) {moves : List (Move σ)}
    (hrun : p.follow? s moves = some q) :
    ∃ w', Relation.ReflTransGen Watch.Step w w' ∧ Shows q id w' := by
  refine Pool.of_follow? (P := fun q => ∃ w', Relation.ReflTransGen Watch.Step w w' ∧
    Shows q id w') ?_ ⟨w, .refl, h⟩ hrun
  rintro p' m q' ⟨w', hsteps, h'⟩ hm
  obtain ⟨w'', hstep, h''⟩ := h'.move hs hm
  exact ⟨w'', hsteps.tail hstep, h''⟩

/-- Where nothing is left to do, all tasks are free. -/
theorem phase_of_isQuiet (h : Shows p id w) (hq : p.isQuiet = true) (i : Nat) :
    w.phase i = .free := by
  cases hi : p.tasks[i]? with
  | none => exact h.idle i (List.getElem?_eq_none_iff.1 hi)
  | some t =>
    have hover : isOver t = true := List.all_eq_true.1 hq t (List.mem_of_getElem? hi)
    obtain rfl : t = .done [] := by
      unfold isOver at hover
      split at hover
      · rfl
      · cases hover
    -- a task that is over asks for no finalization, and so owes none
    rcases h.keeps i _ hi with hfree | ⟨-, hmem⟩
    · exact hfree
    · cases hmem

end Shows

end Mooring.Tracker
