import Decnet.Common.Text
import Decnet.Lib.Run
import Mathlib.Logic.Function.Iterate

/-!
# Terminal gates

The class `TerminalGate` runs a program for a terminal at the far end of a
link, or shows it a menu of programs first.  Its two protocols are CTERM and
RMT.  Under both, a terminal sends what is typed only in answer to a read that
the gate has sent, so whoever sits at it can type only while a read is waiting.

Left out are how output is cut into messages and paced, status reports, and the
terminal's size: none of them concerns reads.
-/

namespace Decnet.Terminal

abbrev Bytes := List UInt8

structure ChostConfig where
  (name description : Text)
  deriving DecidableEq, Repr

inductive State where
  | starting | sizing | menu | running | closing | done
  deriving DecidableEq, Repr

inductive Protocol where
  | cterm | rmt
  deriving DecidableEq, Repr

/-- What a gate sends, under either protocol. -/
inductive Sent where
  | greeting | initiate | setup
  | write (text : Text)
  | single | readChar
  | readLine (prompt : Text)
  | farewell | disconnect
  deriving DecidableEq, Repr

def Sent.isRead : Sent → Bool
  | .readChar | .readLine _ => true
  | _ => false

/-- What a step finds outside the gate: whether a program can be started on a
pseudo terminal, whether a pipe can be made, whether NSP's queue is empty, and
whether the deadline has passed. -/
structure Env where
  starts : Bool := true
  pipes : Bool := true
  drained : Bool := true
  late : Bool := false
  deriving DecidableEq, Repr

/-- A gate, with everything it has sent, the keys it has passed to the program
and the number of read answers that have come.  `configured` is `initiated_`
under CTERM, where a gate is `bound` before that. -/
structure Gate where
  protocol : Protocol
  nodeName : Text
  hosts : List ChostConfig
  state : State := .starting
  conn : Bool := true
  bound : Bool := false
  configured : Bool := false
  single : Bool := false
  failedReads : Nat := 0
  sent : List Sent := []
  keys : Bytes := []
  answered : Nat := 0
  deriving DecidableEq, Repr

def CTRL_C : UInt8 := 0x03
def CR : UInt8 := 0x0d
def CTRL_Z : UInt8 := 0x1a

def get16 (b : Bytes) (pos : Nat) : Nat :=
  if pos + 1 < b.length then
    (b.getD pos 0).toNat + 256 * (b.getD (pos + 1) 0).toNat
  else 0

def chars (b : Bytes) : Text := b.map fun c => Char.ofNat c.toNat

def crlf : Text := "\r\n".toList

def chostPrompt : Text := "\r\nChost> ".toList

namespace Gate

def send (g : Gate) (m : Sent) : Gate :=
  if g.conn then { g with sent := g.sent ++ [m] } else g

def write (g : Gate) (text : Text) : Gate := g.send (.write text)

def readsPosted : Nat := 2

def maxFailedReads : Nat := 50

def readChar (g : Gate) : Gate :=
  match g.protocol with
  | .cterm => g.send .readChar
  | .rmt =>
    if g.single then g.send .readChar
    else (fun g => send g .readChar)^[readsPosted] ({ g with single := true }.send .single)

def readLine (g : Gate) (prompt : Text) : Gate := g.send (.readLine prompt)

def hangUp (g : Gate) : Gate := { g with state := .done }.send .disconnect

def drain (g : Gate) (env : Env) : Gate :=
  if env.drained || env.late then g.hangUp else g

def finish (g : Gate) (env : Env) : Gate :=
  if g.state = .closing ∨ g.state = .done then g
  else
    -- The deadline has just been set.
    ({ g with state := .closing }.send .farewell).drain { env with late := false }

def menuLine (i : Nat) (h : ChostConfig) : Text :=
  let n := Nat.toDigits 10 (i + 1)
  List.replicate (4 - min n.length 3) ' ' ++ n ++ "  ".toList ++ h.name ++
    (if h.description = [] then []
      else List.replicate (18 - h.name.length) ' ' ++ h.description) ++ crlf

def menu (g : Gate) : Gate :=
  ({ g with state := .menu }.write (crlf ++ g.nodeName ++ " CHOST gate\r\n\r\n".toList ++
      (g.hosts.mapIdx menuLine).flatten ++
      "\r\nType a name or a number, or ^Z to leave.\r\n".toList)).readLine chostPrompt

def run (g : Gate) (h : ChostConfig) (env : Env) : Gate :=
  if !env.starts then
    (g.write ("\r\n%CHOST-E-NOSTART, ".toList ++ h.name ++
      " is not available\r\n".toList)).finish env
  else if !env.pipes then g.finish env
  else { g with state := .running }.readChar

def begin (g : Gate) (env : Env) : Gate :=
  match g.hosts with
  | [h] => g.run h env
  | _ => g.menu

/-- The loop of `choose`: a number, a name, or the start of just one name. -/
def pick (input : Text) :
    List ChostConfig → Nat → Option ChostConfig × Nat → Option ChostConfig × Nat
  | [], _, found => found
  | h :: hosts, i, found =>
    if input = Nat.toDigits 10 (i + 1) ∨ input = h.name then (some h, 1)
    else if input.isPrefixOf h.name then
      pick input hosts (i + 1) (some h, found.2 + 1)
    else pick input hosts (i + 1) found

def choose (g : Gate) (input : Text) (term : UInt8) (env : Env) : Gate :=
  if term ≠ CR then (g.write crlf).finish env
  else
    let input := Text.upper (input.filter (!Text.isSpace ·))
    let g := g.write crlf
    if input = [] then g.readLine chostPrompt
    else
      match pick input g.hosts 0 (none, 0) with
      | (some h, 1) => g.run h env
      | (_, matched) =>
        (g.write (if matched ≠ 0 then crlf ++ input ++ " is ambiguous\r\n".toList
            else "\r\nNo such host: ".toList ++ input ++ crlf)).readLine chostPrompt

def tick (g : Gate) (env : Env) : Gate :=
  match g.state with
  | .sizing => if env.late then g.begin env else g
  | .closing => g.drain env
  | _ => g

def ready (g : Gate) (waitForSize : Bool) (env : Env) : Gate :=
  if waitForSize then { g with state := .sizing } else g.begin env

def size (g : Gate) (env : Env) : Gate :=
  if g.state = .sizing then g.begin env else g

def toProgram (g : Gate) (keys : Bytes) : Gate :=
  { g with keys := g.keys ++ keys }

def typed (g : Gate) (keys : Bytes) : Gate :=
  if g.state = .running then (g.toProgram keys).readChar else g

def interrupt (g : Gate) (c : UInt8) (env : Env) : Gate :=
  match g.state with
  | .running => g.toProgram [c]
  | .menu => g.finish env
  | _ => g

def line (g : Gate) (input : Text) (term : UInt8) (env : Env) : Gate :=
  if g.state = .menu then g.choose input term env else g

def fromProgram (g : Gate) (out : Bytes) : Gate :=
  if g.state = .running then g.write (chars out) else g

def programEnded (g : Gate) (env : Env) : Gate :=
  if g.state = .running then g.finish env else g

def disconnected (g : Gate) : Gate := { g with conn := false, state := .done }

/-! ### CTERM -/

/-- The CTERM messages in what follows the first two bytes of a Foundation
common data message.  A length that goes beyond the end stops the loop. -/
def parts : Bytes → List Bytes
  | low :: high :: rest =>
    let len := low.toNat + 256 * high.toNat
    if len ≤ rest.length then
      rest.take len :: parts (rest.drop len)
    else []
  | _ => []
  termination_by msg => msg.length
  decreasing_by
    rw [List.length_drop]
    exact Nat.lt_succ_of_le ((Nat.sub_le ..).trans (Nat.le_succ _))

def ctermReadDone (g : Gate) (data : Bytes) (termPos : Nat) (env : Env) : Gate :=
  match g.state with
  | .running => g.typed data
  | .menu =>
    let termPos := min termPos data.length
    g.line (chars (data.take termPos)) (data.getD termPos CR) env
  | _ => g

def mInitiate : UInt8 := 1
def mReadData : UInt8 := 3
def mOob : UInt8 := 4
def mCharacteristics : UInt8 := 11

def ctermMessage (env : Env) (g : Gate) (m : Bytes) : Gate :=
  match m with
  | [] => g
  | kind :: _ =>
    if kind = mInitiate then
      if g.configured then g
      else ({ g with configured := true }.send .setup).ready true env
    else if kind = mReadData then
      let g := { g with answered := g.answered + 1 }
      if 8 ≤ m.length then g.ctermReadDone (m.drop 8) (get16 m 6) env else g
    else if kind = mOob then
      if 3 ≤ m.length then g.interrupt (m.getD 2 0) env else g
    else if kind = mCharacteristics then g.size env
    else g

def fUnbind : UInt8 := 2
def fBindAccept : UInt8 := 4
def fCommonData : UInt8 := 9

def ctermReceived (g : Gate) (msg : Bytes) (env : Env) : Gate :=
  match msg with
  | [] => g
  | kind :: _ =>
    if kind = fBindAccept then
      if g.bound then g else { g with bound := true }.send .initiate
    else if kind = fUnbind then g.hangUp
    else if kind = fCommonData then
      (parts (msg.drop 2)).foldl (ctermMessage env) g
    else g

/-! ### RMT -/

def failedRead (msg : Bytes) : Bool :=
  msg.getD 3 0 != 0 && get16 msg 6 == 0 && (msg.drop 10 == [] || msg.drop 10 == [0])

def rmtReadDone (g : Gate) (msg : Bytes) (env : Env) : Gate :=
  let rct := get16 msg 6
  let sts := msg.getD 3 0
  let dat := msg.drop 10
  if failedRead msg then
    let g := { g with failedReads := g.failedReads + 1 }
    if maxFailedReads ≤ g.failedReads then g.hangUp
    else if g.state = .running then g.readChar
    else g
  else
    let g := { g with failedReads := 0 }
    let input := dat.take rct
    let term := if sts = 1 then CTRL_C else dat.getD rct CR
    match g.state with
    | .running => g.typed (if input = [] then dat.take 1 else input)
    | .menu =>
      g.line (chars input) (if term = CTRL_Z ∨ term = CTRL_C then term else CR) env
    | _ => g

def rConfig : UInt8 := 1
def rRead : UInt8 := 4
def rReadPrompt : UInt8 := 5
def rCtrlC : UInt8 := 12

def rmtReceived (g : Gate) (msg : Bytes) (env : Env) : Gate :=
  match msg with
  | [] => g
  | kind :: _ =>
    if kind = rConfig then
      if g.configured then g
      else { g with configured := true }.ready false env
    else if kind = rRead ∨ kind = rReadPrompt then
      let g := { g with answered := g.answered + 1 }
      if 10 ≤ msg.length then g.rmtReadDone msg env else g
    else if kind = rCtrlC then g.interrupt CTRL_C env
    -- Replies to writes, and `r_dis`.
    else g

end Gate

inductive Event where
  | dataReceived (msg : Bytes)
  | fromProgram (out : Bytes)
  | programEnded | tick | disconnected
  deriving DecidableEq, Repr

open Gate

def start (protocol : Protocol) (nodeName : Text) (hosts : List ChostConfig) : Gate :=
  { protocol, nodeName, hosts, sent := [.greeting] }

/-- Session control passes nothing on once it has said that the link is
gone. -/
def step (g : Gate) (input : Event × Env) : Gate :=
  match input.1 with
  | .dataReceived msg =>
    if g.conn then
      match g.protocol with
      | .cterm => g.ctermReceived msg input.2
      | .rmt => g.rmtReceived msg input.2
    else g
  | .fromProgram out => g.fromProgram out
  | .programEnded => g.programEnded input.2
  | .tick => g.tick input.2
  | .disconnected => g.disconnected

def ctermAnswer (m : Bytes) : Bool := m.head? == some mReadData

def rmtAnswer (m : Bytes) : Bool :=
  m.head? == some rRead || m.head? == some rReadPrompt

def answers (protocol : Protocol) : Event → List Bytes
  | .dataReceived msg =>
    match protocol with
    | .cterm =>
      if msg.head? = some fCommonData then
        (parts (msg.drop 2)).filter ctermAnswer
      else []
    | .rmt => [msg].filter rmtAnswer
  | _ => []

namespace Gate

def posted (g : Gate) : Nat := g.sent.countP Sent.isRead

def Reading (g : Gate) : Prop := g.state = .menu ∨ g.state = .running

instance (g : Gate) : Decidable g.Reading :=
  inferInstanceAs (Decidable (_ ∨ _))

end Gate

/-- The terminal answers no read more than once. -/
def AnswersOnce (g : Gate) (input : Event × Env) : Prop :=
  g.answered + (answers g.protocol input.1).length ≤ g.posted

/-- The answer has its whole header, and if it comes while an RMT gate shows
its menu, it is not a failed read with nothing in it. -/
def Gate.Usable (g : Gate) (answer : Bytes) : Prop :=
  (match g.protocol with | .cterm => 8 | .rmt => 10) ≤ answer.length ∧
    (g.protocol = .rmt → g.state = .menu → failedRead answer = false)

def AnswersUsable (g : Gate) (input : Event × Env) : Prop :=
  ∀ answer ∈ answers g.protocol input.1, g.Usable answer

instance (g : Gate) (answer : Bytes) : Decidable (g.Usable answer) :=
  inferInstanceAs (Decidable (_ ∧ _))

instance (g : Gate) (input : Event × Env) : Decidable (AnswersOnce g input) :=
  inferInstanceAs (Decidable (_ ≤ _))

instance (g : Gate) (input : Event × Env) : Decidable (AnswersUsable g input) :=
  inferInstanceAs (Decidable (∀ answer ∈ _, g.Usable answer))

namespace Gate

variable {owed : Bool} {g g' g'' : Gate} {env : Env}

/-- An operation that, if a read is `owed`, sends one unless the terminal is
not to be read any more. -/
structure Serves (owed : Bool) (g g' : Gate) : Prop where
  conn : g'.conn = g.conn
  answered : g'.answered = g.answered
  grows : g.posted ≤ g'.posted
  reads : g'.Reading → (owed = false ∧ g.Reading) ∨ g.posted < g'.posted

theorem Serves.trans (first : Serves false g g') (second : Serves owed g' g'') :
    Serves owed g g'' := by
  refine ⟨second.conn.trans first.conn, second.answered.trans first.answered,
    Nat.le_trans first.grows second.grows, fun reading => ?_⟩
  rcases second.reads reading with ⟨same, before⟩ | more
  · rcases first.reads before with ⟨_, earlier⟩ | more
    · exact .inl ⟨same, earlier⟩
    · exact .inr (Nat.lt_of_lt_of_le more second.grows)
  · exact .inr (Nat.lt_of_le_of_lt first.grows more)

theorem Serves.after (second : Serves true g' g'') (conn : g'.conn = g.conn)
    (answered : g'.answered = g.answered) (grows : g.posted ≤ g'.posted) : Serves owed g g'' := by
  refine ⟨second.conn.trans conn, second.answered.trans answered,
    Nat.le_trans grows second.grows, fun reading => .inr ?_⟩
  rcases second.reads reading with ⟨impossible, _⟩ | more
  · cases impossible
  · exact Nat.lt_of_le_of_lt grows more

theorem Serves.idle (conn : g'.conn = g.conn) (answered : g'.answered = g.answered)
    (grows : g.posted ≤ g'.posted) (idle : ¬ g'.Reading) : Serves owed g g' :=
  ⟨conn, answered, grows, fun reading => absurd reading idle⟩

@[simp] theorem send_conn (g : Gate) (m : Sent) : (g.send m).conn = g.conn := by
  unfold send; split <;> rfl

@[simp] theorem send_state (g : Gate) (m : Sent) : (g.send m).state = g.state := by
  unfold send; split <;> rfl

@[simp] theorem send_answered (g : Gate) (m : Sent) : (g.send m).answered = g.answered := by
  unfold send; split <;> rfl

theorem serves_send (g : Gate) (m : Sent) : Serves false g (g.send m) := by
  refine ⟨send_conn g m, send_answered g m, ?_, fun reading => ?_⟩
  · unfold send
    split
    · exact Nat.le_trans (Nat.le_add_right _ _) (Nat.le_of_eq List.countP_append.symm)
    · exact Nat.le_refl _
  · unfold Reading at reading
    rw [send_state] at reading
    exact .inl ⟨rfl, reading⟩

theorem serves_read (linked : g.conn = true) {m : Sent}
    (read : m.isRead = true) : Serves owed g (g.send m) := by
  have sent := serves_send g m
  refine ⟨sent.conn, sent.answered, sent.grows, fun _ => .inr ?_⟩
  simp [posted, send, linked, read]

theorem serves_readChar (g : Gate) (linked : g.conn = true) : Serves owed g g.readChar := by
  unfold readChar
  split
  · exact serves_read linked rfl
  · split
    · exact serves_read linked rfl
    · -- Single character mode, then the first read, then the second.
      have first := (serves_send { g with single := true } .single).trans (serves_send _ .readChar)
      exact (serves_read (first.conn.trans linked) rfl).after first.conn first.answered first.grows

theorem not_reading_of_done (done : g.state = .done) : ¬ g.Reading := by
  simp [Reading, done]

section

variable (g : Gate)

theorem serves_hangUp : Serves owed g g.hangUp :=
  have sent := serves_send { g with state := .done } .disconnect
  .idle sent.conn sent.answered sent.grows (not_reading_of_done (send_state _ _))

theorem serves_finish (env : Env) : Serves owed g (g.finish env) := by
  unfold finish
  split
  next over' =>
      refine .idle rfl rfl (Nat.le_refl _) ?_
      rcases over' with closing | done
      · simp [Reading, closing]
      · exact not_reading_of_done done
  next =>
      have sent := serves_send { g with state := .closing } .farewell
      have closing : Serves false g ({ g with state := .closing }.send .farewell) :=
        .idle sent.conn sent.answered sent.grows (by simp [Reading])
      unfold drain
      split
      · exact closing.trans (serves_hangUp _)
      · exact .idle closing.conn closing.answered closing.grows (by simp [Reading])

section

variable (linked : g.conn = true)

include linked

theorem serves_write_readLine (text prompt : Text) :
    Serves owed g ((g.write text).readLine prompt) := by
  have written := serves_send g (.write text)
  exact (serves_read (written.conn.trans linked) rfl).after written.conn
    written.answered written.grows

theorem serves_menu : Serves owed g g.menu :=
  (serves_write_readLine { g with state := .menu } linked _ chostPrompt).after
    rfl rfl (Nat.le_refl _)

theorem serves_run (h : ChostConfig) (env : Env) : Serves owed g (g.run h env) := by
  unfold run
  split
  · exact (serves_send g _).trans (serves_finish _ env)
  · split
    · exact serves_finish g env
    · exact (serves_readChar { g with state := .running } linked).after rfl rfl (Nat.le_refl _)

theorem serves_begin (env : Env) : Serves owed g (g.begin env) := by
  unfold begin
  split
  · exact serves_run g linked _ env
  · exact serves_menu g linked

theorem serves_choose (input : Text) (term : UInt8) (env : Env) :
    Serves owed g (g.choose input term env) := by
  have written := serves_send g (.write crlf)
  have linked' : (g.write crlf).conn = true := written.conn.trans linked
  unfold choose
  split
  · exact written.trans (serves_finish _ env)
  · dsimp only
    split
    · exact serves_write_readLine g linked crlf chostPrompt
    · split
      · exact written.trans (serves_run _ linked' _ env)
      · exact written.trans (serves_write_readLine _ linked' _ _)

theorem serves_line (menu : g.state = .menu) (input : Text) (term : UInt8) (env : Env) :
    Serves owed g (g.line input term env) := by
  unfold line
  rw [if_pos menu]
  exact serves_choose g linked input term env

theorem serves_typed (running : g.state = .running) (keys : Bytes) :
    Serves owed g (g.typed keys) := by
  unfold typed
  rw [if_pos running]
  exact (serves_readChar (g.toProgram keys) linked).after rfl rfl (Nat.le_refl _)

end

theorem Serves.refl : Serves false g g :=
  ⟨rfl, rfl, Nat.le_refl _, fun reading => .inl ⟨rfl, reading⟩⟩

theorem serves_interrupt (c : UInt8) (env : Env) : Serves false g (g.interrupt c env) := by
  unfold interrupt
  split
  next running =>
      exact ⟨rfl, rfl, Nat.le_refl _, fun reading => .inl ⟨rfl, reading⟩⟩
  next => exact serves_finish g env
  next => exact .refl g

theorem serves_tick (linked : g.conn = true) (env : Env) : Serves false g (g.tick env) := by
  unfold tick
  split
  · split
    · exact serves_begin g linked env
    · exact .refl g
  · unfold drain
    split
    · exact serves_hangUp g
    · exact .refl g
  · exact .refl g

/-- Whatever an answer of CTERM says, the read it answers is replaced. -/
theorem serves_ctermReadDone (linked : g.conn = true) (data : Bytes) (termPos : Nat) (env : Env) :
    Serves true g (g.ctermReadDone data termPos env) := by
  unfold ctermReadDone
  split
  next running => exact serves_typed g linked running data
  next menu => exact serves_line g linked menu _ _ env
  next running menu =>
      refine .idle rfl rfl (Nat.le_refl _) ?_
      rintro (reading | reading)
      · exact menu reading
      · exact running reading

/-- So is one of RMT, but for a failed read in the menu. -/
theorem serves_rmtReadDone (linked : g.conn = true) (msg : Bytes)
    (usable : g.state = .menu → failedRead msg = false) (env : Env) :
    Serves true g (g.rmtReadDone msg env) := by
  let failing := { g with failedReads := g.failedReads + 1 }
  let well := { g with failedReads := 0 }
  unfold rmtReadDone
  dsimp only
  split
  next failed =>
      split
      · exact (serves_hangUp _).after rfl rfl (Nat.le_refl _)
      · split
        next running =>
            exact (serves_readChar failing linked).after rfl rfl (Nat.le_refl _)
        next idle =>
            refine .idle rfl rfl (Nat.le_refl _) ?_
            rintro (menu | running)
            · exact absurd failed (by simp [usable menu])
            · exact idle running
  next =>
      split
      next running =>
          exact (serves_typed well linked running _).after rfl rfl (Nat.le_refl _)
      next menu =>
          exact (serves_line well linked menu _ _ env).after rfl rfl (Nat.le_refl _)
      next running menu =>
          refine .idle rfl rfl (Nat.le_refl _) ?_
          rintro (reading | reading)
          · exact menu reading
          · exact running reading

end

/-- Session control has not said that the link is gone, or nothing more will
happen; no read has been answered twice; and whenever the terminal is to be
read, a read is waiting. -/
structure Attended (g : Gate) : Prop where
  linked : g.conn = true ∨ g.state = .done
  once : g.answered ≤ g.posted
  waiting : g.Reading → g.answered < g.posted

theorem Attended.serves (attended : g.Attended) (linked : g.conn = true)
    (serves : Serves false g g') : g'.Attended := by
  refine ⟨.inl (serves.conn.trans linked), ?_, fun reading => ?_⟩
  · rw [serves.answered]
    exact Nat.le_trans attended.once serves.grows
  · rw [serves.answered]
    rcases serves.reads reading with ⟨_, before⟩ | more
    · exact Nat.lt_of_lt_of_le (attended.waiting before) serves.grows
    · exact Nat.lt_of_le_of_lt attended.once more

theorem attended_of_serves (g : Gate) (linked : g.conn = true)
    (once : g.answered ≤ g.posted) (serves : Serves true g g') : g'.Attended := by
  refine ⟨.inl (serves.conn.trans linked), ?_, fun reading => ?_⟩
  · rw [serves.answered]
    exact Nat.le_trans once serves.grows
  · rw [serves.answered]
    rcases serves.reads reading with ⟨impossible, _⟩ | more
    · cases impossible
    · exact Nat.lt_of_le_of_lt once more

/-- One more answer has come, if the message is one. -/
def taking (g : Gate) (answer : Bool) : Gate :=
  { g with answered := g.answered + answer.toNat }

theorem Attended.taking {answer : Bool} (attended : g.Attended)
    (linked : g.conn = true) (once : g.answered + answer.toNat ≤ g.posted)
    (serves : Serves answer (g.taking answer) g') : g'.Attended := by
  cases answer with
  | false => exact attended.serves linked serves
  | true => exact attended_of_serves (g.taking true) linked once serves

theorem serves_ctermMessage (g : Gate) (linked : g.conn = true) (env : Env)
    (m : Bytes) (whole : ctermAnswer m = true → 8 ≤ m.length) :
    Serves (ctermAnswer m) (g.taking (ctermAnswer m)) (ctermMessage env g m) := by
  cases m with
  | nil => exact .refl g
  | cons kind rest =>
    by_cases answer : kind = mReadData
    · subst answer
      have long := whole rfl
      simp only [ctermMessage, if_pos long]
      exact serves_ctermReadDone (g.taking true) linked _ _ env
    · have other : ctermAnswer (kind :: rest) = false := by
        simp [ctermAnswer, answer]
      rw [other]
      simp only [ctermMessage]
      split
      · split
        · exact .refl g
        · have sent := serves_send { g with configured := true } .setup
          exact .idle sent.conn sent.answered sent.grows (by simp [ready, Reading])
      · split
        · split
          · exact serves_interrupt g _ env
          · exact .refl g
        · split
          · unfold size
            split
            · exact serves_begin g linked env
            · exact .refl g
          · exact .refl g

theorem serves_rmtReceived (g : Gate) (linked : g.conn = true) (env : Env) (msg : Bytes)
    (usable : rmtAnswer msg = true → 10 ≤ msg.length ∧ (g.state = .menu → failedRead msg = false)) :
    Serves (rmtAnswer msg) (g.taking (rmtAnswer msg)) (g.rmtReceived msg env) := by
  cases msg with
  | nil => exact .refl g
  | cons kind rest =>
    by_cases answer : kind = rRead ∨ kind = rReadPrompt
    · have isAnswer : rmtAnswer (kind :: rest) = true := by
        simpa [rmtAnswer] using answer
      obtain ⟨long, readable⟩ := usable isAnswer
      have unlike : kind ≠ rConfig := by
        rcases answer with rfl | rfl <;> decide
      rw [isAnswer]
      simp only [rmtReceived, if_neg unlike, if_pos answer, if_pos long]
      exact serves_rmtReadDone (g.taking true) linked _ readable env
    · have other : rmtAnswer (kind :: rest) = false := by
        simpa [rmtAnswer] using answer
      rw [other]
      simp only [rmtReceived]
      split
      · split
        · exact .refl g
        · exact (serves_begin { g with configured := true } linked env).after
            rfl rfl (Nat.le_refl _)
      · split
        · exact serves_interrupt g _ env
        · exact .refl g

/-- The messages in one packet: no more of them are answers than there were
reads waiting when it came. -/
theorem Attended.ctermMessages (env : Env) (messages : List Bytes)
    (attended : g.Attended) (linked : g.conn = true)
    (once : g.answered + (messages.filter ctermAnswer).length ≤ g.posted)
    (whole : ∀ m ∈ messages.filter ctermAnswer, 8 ≤ m.length) :
    (messages.foldl (ctermMessage env) g).Attended := by
  induction messages generalizing g with
  | nil => exact attended
  | cons m messages induction =>
    have long : ctermAnswer m = true → 8 ≤ m.length := fun answer =>
      whole m (List.mem_filter.2 ⟨List.mem_cons_self, answer⟩)
    have serves := serves_ctermMessage g linked env m long
    have count : (ctermAnswer m).toNat + (messages.filter ctermAnswer).length =
          ((m :: messages).filter ctermAnswer).length := by
      cases answer : ctermAnswer m <;> simp [answer, Nat.add_comm]
    refine induction (attended.taking linked (by omega) serves)
      (serves.conn.trans linked) ?_ fun other member => whole other ?_
    · have answered : (ctermMessage env g m).answered =
        g.answered + (ctermAnswer m).toNat := serves.answered
      have grows : g.posted ≤ (ctermMessage env g m).posted := serves.grows
      omega
    · obtain ⟨inMessages, answer⟩ := List.mem_filter.1 member
      exact List.mem_filter.2 ⟨List.mem_cons_of_mem m inMessages, answer⟩

theorem Attended.ctermReceived (attended : g.Attended) (linked : g.conn = true)
    (protocol : g.protocol = .cterm) (msg : Bytes) (env : Env)
    (once : AnswersOnce g (.dataReceived msg, env))
    (usable : AnswersUsable g (.dataReceived msg, env)) : (g.ctermReceived msg env).Attended := by
  unfold AnswersOnce at once
  have whole (answer : Bytes) (member : answer ∈ answers g.protocol (.dataReceived msg)) :
      8 ≤ answer.length := by
    simpa [protocol] using (usable answer member).1
  rw [protocol] at once whole
  unfold Gate.ctermReceived
  split
  · exact attended
  next kind rest =>
      split
      · split
        · exact attended
        · have sent := serves_send { g with bound := true } .initiate
          exact attended.serves linked { sent with }
      · split
        · exact attended.serves linked (serves_hangUp g)
        · split
          next data =>
              subst data
              exact attended.ctermMessages env _ linked once whole
          next => exact attended

theorem Attended.step (attended : g.Attended) (input : Event × Env)
    (once : AnswersOnce g input) (usable : AnswersUsable g input) : (step g input).Attended := by
  obtain ⟨event, env⟩ := input
  by_cases linked : g.conn = true
  · cases event with
    | dataReceived msg =>
      unfold Terminal.step
      dsimp only
      rw [if_pos linked]
      split
      next protocol =>
          exact attended.ctermReceived linked protocol msg env once usable
      next protocol =>
          have count : (answers g.protocol (.dataReceived msg)).length = (rmtAnswer msg).toNat := by
            cases answer : rmtAnswer msg <;> simp [answers, protocol, answer]
          refine attended.taking linked (count ▸ once)
            (serves_rmtReceived g linked env msg fun answer => ?_)
          have member : msg ∈ answers g.protocol (.dataReceived msg) := by
            simp [answers, protocol, answer]
          have ⟨long, readable⟩ := usable msg member
          rw [protocol] at long
          exact ⟨long, readable protocol⟩
    | fromProgram out =>
      unfold Terminal.step Gate.fromProgram
      dsimp only
      split
      · exact attended.serves linked (serves_send g _)
      · exact attended
    | programEnded =>
      unfold Terminal.step Gate.programEnded
      dsimp only
      split
      · exact attended.serves linked (serves_finish g env)
      · exact attended
    | tick => exact attended.serves linked (serves_tick g linked env)
    | disconnected =>
      exact ⟨.inr rfl, attended.once, fun reading => absurd reading (not_reading_of_done rfl)⟩
  · -- The link is gone, and the gate is done with it.
    have done : g.state = .done := attended.linked.resolve_left linked
    cases event with
    | dataReceived msg => simpa [Terminal.step, linked] using attended
    | fromProgram out | programEnded | tick =>
      simpa [Terminal.step, Gate.fromProgram, Gate.programEnded, Gate.tick,
        done] using attended
    | disconnected =>
      exact ⟨.inr rfl, attended.once, fun reading => absurd reading (not_reading_of_done rfl)⟩

end Gate

/-- While the answers are usable, a terminal that is to be read always has a
read waiting, under both protocols and whatever else happens. -/
theorem read_waits (protocol : Protocol) (nodeName : Text)
    (hosts : List ChostConfig) (inputs : List (Event × Env))
    (once : Run.Guarded step AnswersOnce (start protocol nodeName hosts) inputs)
    (usable : Run.Guarded step AnswersUsable (start protocol nodeName hosts) inputs) :
    (inputs.foldl step (start protocol nodeName hosts)).Reading →
      (inputs.foldl step (start protocol nodeName hosts)).answered <
        (inputs.foldl step (start protocol nodeName hosts)).posted := by
  have attended : (start protocol nodeName hosts).Attended :=
    ⟨.inl rfl, Nat.le_refl _, fun reading => by simp [Reading, start] at reading⟩
  exact ((once.and usable).invariant (fun _ input attended ok => attended.step input ok.1 ok.2)
    attended).waiting

def twoHosts : List ChostConfig := [⟨['A'], []⟩, ⟨['B'], []⟩]

/-- The RMT configuration message, then `2` and a return. -/
def choosing : List (Event × Env) :=
  [(.dataReceived [1, 1, 0, 0, 4, 0, 2, 0], {}),
    (.dataReceived [5, 0, 0, 0, 1, 0, 1, 0, 0, 0, 0x32, 0x0d], {})]

/-- A host is chosen from the menu, and its program then has two reads. -/
theorem choosing_waits :
    Run.Guarded step AnswersOnce (start .rmt [] twoHosts) choosing ∧
      Run.Guarded step AnswersUsable (start .rmt [] twoHosts) choosing ∧
      (choosing.foldl step (start .rmt [] twoHosts)).state = .running ∧
      (choosing.foldl step (start .rmt [] twoHosts)).answered <
        (choosing.foldl step (start .rmt [] twoHosts)).posted :=
  ⟨by decide, by decide, by decide,
    read_waits .rmt [] twoHosts choosing (by decide) (by decide) (by decide)⟩

/-- The menu's read fails with nothing in it, and the gate is left in its menu
with the one read it has sent answered. -/
theorem failed_menu_read_not_replaced : let inputs : List (Event × Env) :=
      [(.dataReceived [1, 1, 0, 0, 4, 0, 2, 0], {}),
        (.dataReceived [5, 0, 0, 2, 1, 0, 0, 0, 0, 0], {})]
    let g := inputs.foldl step (start .rmt [] twoHosts)
    Run.Guarded step AnswersOnce (start .rmt [] twoHosts) inputs ∧
      g.state = .menu ∧ g.posted = 1 ∧ g.answered = 1 := by
  decide

end Decnet.Terminal
