import Decnet.Lib.Family
import Decnet.Routing.LanUpkeep

/-!
# The timers of broadcast circuits

A broadcast circuit asks the wheel for its hello interval, for a listen
interval of each neighbour and, if it routes, for the delay of the election.
The listen interval comes from the hello timer that a neighbour announces; the
wheel has room for those that were asked for if every hello announced a timer
that fits.
-/

namespace Decnet.Routing

open Throwing TimerWheel

/-- A computation ended because the wheel refused an interval. -/
def Overflows {σ α : Type} (x : EStateM Thrown σ α) (state : σ) : Prop :=
  ∃ what, thrown (x state) = some (.overflowError what)

/-- The wheel has room for the listen interval of a neighbour that announces
the timer. -/
def Announceable (t3 timer : Nat) : Prop :=
  Spans ((if timer = 0 then t3 else timer) * 2100)

def LanEntry.Spanned (a : LanEntry) : Prop :=
  ∀ l, a.adj = some l → Spans l.t4

/-- The wheel refuses nothing, if it has room for the listen intervals before;
then it has room for those after. -/
def spanned : Upkeep where
  entry := LanEntry.Spanned
  fresh l := Spans l.t4
  hello _ := True
  allowed := Thrown.Benign

theorem spanned_lawful : spanned.Lawful where
  benign _ benign := benign
  refused a l entry has spans := absurd (entry l has) spans
  unheard := nofun
  noted _ _ _ _ entry := entry
  promoted _ entry := entry
  made a l entry fresh := by
    rintro _ ⟨⟩
    cases has : a.adj with
    | none => exact fresh
    | some l' => exact entry l' has
  timed a l l' entry has base _ _ := by
    rintro _ ⟨⟩
    unfold Listener.t4
    rw [base]
    exact entry l has

/-- The circuit is started, or something happens on it. -/
inductive LanInput where
  | start
  | event (event : LanEvent)

/-- The hello timer that comes with a packet fits. -/
def LanInput.Announces (t3 : Nat) : LanInput → Prop
  | .event (.routerHello rh _ _) => Announceable t3 rh.timer
  | .event (.endnodeHello eh _ _) => Announceable t3 eh.timer
  | _ => True

variable {σ : Type}

/-- A circuit as a machine that the wheel may refuse something. -/
def lanMachine (initial : σ) (handle : Outside → LanInput → EStateM Thrown σ Unit) : Component where
  State := σ
  Input := LanInput × Outside
  initial := initial
  step c input := after (handle input.2 input.1 c)
  refused c input := Overflows (handle input.2 input.1) c

theorem lanMachine_copes {initial : σ} {handle : Outside → LanInput → EStateM Thrown σ Unit}
    {property : σ → Prop} {t3 : Nat} (holds : property initial)
    (admits : ∀ out input, input.Announces t3 → Admits property Thrown.Benign (handle out input)) :
    (lanMachine initial handle).Copes (fun input => input.1.Announces t3) property := by
  constructor
  case initial => exact holds
  case kept =>
    intro c input holds fits
    exact (admits input.2 input.1 fits).keeps c holds
  case served =>
    intro c input holds fits
    rintro ⟨what, raised⟩
    exact (admits input.2 input.1 fits).thrown_ne holds id raised

theorem spanned_hears {cfg : LanConfig} {event : LanEvent}
    (fits : (LanInput.event event).Announces cfg.t3) : spanned.Hears cfg event := by
  cases event with
  | routerHello | endnodeHello => exact fun _ => fits
  | _ => trivial

namespace RoutingLanCircuit

def handle (cfg : LanConfig) (out : Outside) : LanInput → RoutingLanM Unit
  | .start => do
      announce cfg
      calcDr cfg
  | .event event => dispatch cfg out event

def machine (cfg : LanConfig) : Component := lanMachine new (handle cfg)

abbrev Spanned (c : RoutingLanCircuit) : Prop := spanned.Holds c.station

theorem copes (cfg : LanConfig) (hello : Spans (cfg.t3 * 1000)) :
    (machine cfg).Copes (fun input => input.1.Announces cfg.t3) Spanned := by
  apply lanMachine_copes ⟨trivial, nofun⟩
  intro out input fits
  cases input with
  | start =>
    apply (spanned_lawful.announce (fun _ => trivial) (absurd hello)).bind
    exact fun _ => spanned_lawful.apart fun _ _ _ => calcDr_apart
  | event event =>
    exact spanned_lawful.dispatch (fun _ _ entry => entry) (spanned_hears fits) fun _ =>
        spanned_lawful.helloTimeout (fun _ => trivial) (absurd hello)

end RoutingLanCircuit

namespace EndnodeLanCircuit

/-- The hello of an endnode has fields of fixed size and is always sent. -/
def announce (cfg : LanConfig) : EndnodeLanM Unit := base do
  LanStation.startTimer (cfg.t3 * 1000)
  modify fun s => { s with helloArmed := true }

def handle (cfg : LanConfig) (out : Outside) : LanInput → EndnodeLanM Unit
  | .start => announce cfg
  | .event .helloTimeout => do
      let c ← get
      if c.station.helloArmed then announce cfg else pure ()
  | .event event => dispatch cfg out event

def machine (cfg : LanConfig) : Component := lanMachine new (handle cfg)

abbrev Spanned (c : EndnodeLanCircuit) : Prop := spanned.Holds c.station

theorem copes (cfg : LanConfig) (hello : Spans (cfg.t3 * 1000)) :
    (machine cfg).Copes (fun input => input.1.Announces cfg.t3) Spanned := by
  apply lanMachine_copes ⟨trivial, nofun⟩
  intro out input fits
  have announce : spanned.EndnodeServes (announce cfg) := by
    apply Upkeep.endnodeServes_base
    exact Upkeep.serves_startTimer (absurd hello) fun _ =>
      admits_modify fun _ holds => { holds with }
  cases input with
  | start => exact announce
  | event event =>
    have other : spanned.EndnodeServes (dispatch cfg out event) :=
      spanned_lawful.endnodeDispatch (spanned_hears fits)
    cases event with
    | helloTimeout =>
      apply Admits.get_bind
      intro c holds
      split
      · exact announce
      · exact admits_pure _
    | _ => exact other

end EndnodeLanCircuit

end Decnet.Routing
