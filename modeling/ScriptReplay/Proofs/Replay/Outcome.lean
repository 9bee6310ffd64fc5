import ScriptReplay.Replay.World

/-!
# What an action comes to

The outcome of an action in a world is what it gives, or the fault it ends with, together with the
world it leaves behind. There is one equation for each way in which actions are put together:

* a fault ends a sequence, and keeps what was done before it;
* a handler starts in the world that the fault left behind;
* a finalizer runs whatever happened, and its own fault goes before that of the action it closes.
-/

namespace ScriptReplay

/-- The world after some more exchanges. -/
def World.exchanged (world : World) (exchanges : List Exchange) : World :=
  { world with exchanges := world.exchanges ++ exchanges }

/-- The world after some more notices were logged under the correlation id in force. -/
def World.noted (world : World) (notices : List Log.Notice) : World :=
  { world with records := world.records ++ notices.map (·.stamp world.correlation) }

section World

variable (world : World)

@[simp] theorem World.exchanges_exchanged (exchanges : List Exchange) :
    (world.exchanged exchanges).exchanges = world.exchanges ++ exchanges := rfl

@[simp] theorem World.exchanges_noted (notices : List Log.Notice) :
    (world.noted notices).exchanges = world.exchanges := rfl

@[simp] theorem World.exchanged_nil : world.exchanged [] = world := by
  simp [World.exchanged]

@[simp] theorem World.exchanged_exchanged (first second : List Exchange) :
    (world.exchanged first).exchanged second = world.exchanged (first ++ second) := by
  simp [World.exchanged]

@[simp] theorem World.noted_nil : world.noted [] = world := by
  simp [World.noted]

@[simp] theorem World.noted_noted (first second : List Log.Notice) :
    (world.noted first).noted second = world.noted (first ++ second) := by
  simp [World.noted]

theorem World.noted_exchanged (notices : List Log.Notice) (exchanges : List Exchange) :
    (world.noted notices).exchanged exchanges = (world.exchanged exchanges).noted notices := rfl

end World

namespace Action

/-- What an action gives in a world, and the world it leaves behind. -/
def outcome {α : Type} (action : Action α) (world : World) : Except Fault α × World :=
  action.run.run world

variable {α β : Type} (world : World)

/-! ## Putting actions together -/

section Combinators

@[simp] theorem outcome_pure (a : α) : (pure a : Action α).outcome world = (.ok a, world) := rfl

@[simp] theorem outcome_throw (fault : Fault) :
    (throw fault : Action α).outcome world = (.error fault, world) := rfl

theorem outcome_bind (action : Action α) (next : α → Action β) :
    (action >>= next).outcome world = match action.outcome world with
      | (.ok a, after) => (next a).outcome after
      | (.error fault, after) => (.error fault, after) := by
  simp only [outcome, ExceptT.run_bind, StateT.run_bind]
  rcases StateT.run (ExceptT.run action) world with ⟨_ | _, after⟩
  · rfl
  · rfl

theorem outcome_tryCatch (action : Action α) (handler : Fault → Action α) :
    (tryCatch action handler).outcome world = match action.outcome world with
      | (.ok a, after) => (.ok a, after)
      | (.error fault, after) => (handler fault).outcome after := by
  unfold outcome
  simp only [tryCatch, tryCatchThe, MonadExceptOf.tryCatch, ExceptT.tryCatch, ExceptT.run,
    ExceptT.mk, StateT.run, bind, StateT.bind]
  rcases (action world : Except Fault α × World) with ⟨_ | _, after⟩
  · rfl
  · rfl

theorem outcome_tryFinally (action : Action α) (finalizer : Action β) :
    (tryFinally action finalizer).outcome world = match action.outcome world with
      | (result, after) => match finalizer.outcome after with
        | (.ok _, final) => (result, final)
        | (.error fault, final) => (.error fault, final) := by
  unfold outcome tryFinally
  simp only [Functor.map, ExceptT.map, tryFinally', ExceptT.run, ExceptT.mk, StateT.run, bind,
    StateT.bind]
  rcases (action world : Except Fault α × World) with ⟨_ | _, after⟩
  all_goals
    dsimp only [pure]
    rcases (finalizer after : Except Fault β × World) with ⟨_ | _, final⟩
    · rfl
    · rfl

end Combinators

/-! ## Single actions -/

section Single

@[simp] theorem outcome_get : (get : Action World).outcome world = (.ok world, world) := rfl

@[simp] theorem outcome_modify (f : World → World) :
    (modify f : Action PUnit).outcome world = (.ok ⟨⟩, f world) := rfl

@[simp] theorem outcome_lift (result : Except Fault α) :
    (lift result).outcome world = (result, world) := rfl

@[simp] theorem outcome_log (notice : Log.Notice) :
    (log notice).outcome world = (.ok (), world.noted [notice]) := rfl

end Single

end Action

/-- A request to a connection with its answer, given all that went before. -/
def Connection.ask (connection : Connection) (history : List Exchange) (call : Call) : Exchange :=
  ⟨call, connection.answer history call⟩

namespace Action

variable {α : Type} (world : World)

/-- A request is one more exchange, and fails as the connection answers it. -/
theorem outcome_request (connection : Connection) (call : Call) :
    (request connection call).outcome world =
      (match connection.answer world.exchanges call with
        | none => .ok ()
        | some failure => .error (.connection failure),
        world.exchanged [connection.ask world.exchanges call]) := by
  unfold request
  simp only [outcome_bind, outcome_get, outcome_modify]
  cases h : connection.answer world.exchanges call <;> simp [Connection.ask, World.exchanged, h]

/-- The correlation id of the world that an action leaves behind is that of the world it started
in, if the action was done under another id. -/
theorem outcome_withCorrelation (id : String) (action : Action α) :
    (withCorrelation id action).outcome world =
      ((action.outcome { world with correlation := some id }).1,
        { (action.outcome { world with correlation := some id }).2 with
          correlation := world.correlation }) := by
  unfold withCorrelation
  simp only [outcome_bind, outcome_get, outcome_modify, outcome_tryFinally]

/-- Notices are logged one after another. -/
theorem outcome_forM_log (notices : List Log.Notice) :
    (notices.forM log).outcome world = (.ok ⟨⟩, world.noted notices) := by
  induction notices generalizing world with
  | nil => simp
  | cons notice rest ih =>
    show (log notice >>= fun _ => rest.forM log).outcome world = _
    rw [outcome_bind, outcome_log]
    simp only [ih, World.noted_noted, List.singleton_append]

/-- Loading makes no exchanges, and logs nothing unless it succeeds. -/
theorem outcome_load [Encoding.Codecs] (tree : FileTree) (config : Config) (path : String) :
    (load tree config path).outcome world =
      match Script.load tree config path with
      | .ok loaded => (.ok loaded.script, world.noted loaded.notices)
      | .error fault => (.error fault, world) := by
  unfold load
  rw [outcome_bind, outcome_lift]
  cases Script.load tree config path with
  | error fault => rfl
  | ok loaded => simp only [outcome_bind, outcome_forM_log, outcome_pure]

/-! ## Actions that ask nothing of a connection -/

section Offline

/-- An action that makes no exchanges, whatever it comes to. -/
def Offline (action : Action α) : Prop :=
  ∀ world, (action.outcome world).2.exchanges = world.exchanges

variable {β : Type}

theorem Offline.pure (a : α) : Offline (Pure.pure a) := fun _ => rfl

theorem Offline.lift (result : Except Fault α) : Offline (Action.lift result) := fun _ => rfl

theorem Offline.bind {action : Action α} {next : α → Action β} (haction : Offline action)
    (hnext : ∀ a, Offline (next a)) : Offline (action >>= next) := by
  intro world
  have hfirst := haction world
  rw [outcome_bind]
  rcases h : action.outcome world with ⟨_ | a, after⟩
  · rw [← hfirst, h]
  · rw [← hfirst, h]
    exact hnext a after

theorem Offline.mapM {f : α → Action β} (hf : ∀ a, Offline (f a)) (list : List α) :
    Offline (list.mapM f) := by
  induction list with
  | nil => exact Offline.pure []
  | cons a rest ih =>
    rw [List.mapM_cons]
    exact (hf a).bind fun b => ih.bind fun bs => Offline.pure (b :: bs)

theorem offline_log (notice : Log.Notice) : Offline (log notice) := fun _ => rfl

/-- What needs no connection can follow an action without changing its exchanges. -/
theorem exchanges_bind_of_offline {action : Action α} {next : α → Action β}
    (hnext : ∀ a, Offline (next a)) (world : World) :
    ((action >>= next).outcome world).2.exchanges = (action.outcome world).2.exchanges := by
  rw [outcome_bind]
  rcases action.outcome world with ⟨_ | a, after⟩
  · rfl
  · exact hnext a after

theorem offline_load [Encoding.Codecs] (tree : FileTree) (config : Config) (path : String) :
    Offline (load tree config path) := by
  intro world
  rw [outcome_load]
  cases Script.load tree config path <;> rfl

theorem offline_loadAll [Encoding.Codecs] (tree : FileTree) (config : Config)
    (directory glob : String) :
    Offline (loadAll tree config directory glob) :=
  (Offline.lift _).bind fun paths => Offline.mapM (fun _ => offline_load tree config _) paths

end Offline

end Action

end ScriptReplay
