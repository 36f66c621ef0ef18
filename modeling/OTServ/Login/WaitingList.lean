import Mathlib.Algebra.Group.Int.Defs
import OTServ.Library.GuardedRuns
import Mathlib.Data.List.InsertIdx
import Mathlib.Data.List.Nodup
import Mathlib.Order.Basic

/-!
# The waiting list

When the server is full, clients are put on a waiting list.  They are told their
place and when to try again, and are dropped from the list some seconds later.

`clean_wait_list` goes on with the iterators it has taken before it erases
entries.  Reading beyond the end of the list has no answer here.
-/

namespace OTServ.Login

open Library.GuardedRuns
open List Option

/-- `WaitingClient` -/
structure WaitingClient where
  acc : Nat
  ip : Nat
  name : String
  premium : Bool
  timeout : Int
deriving DecidableEq

structure Player where
  account : Nat
  ip : Nat
  name : String
  isPremium : Bool
  canAlwaysLogin : Bool

/-- `boost::algorithm::iequals` -/
def iequals (one other : String) : Bool := one.toLower == other.toLower

/-- The test of `findClient` -/
def WaitingClient.isOf (player : Player) (client : WaitingClient) : Bool :=
  client.acc == player.account && client.ip == player.ip && iequals client.name player.name

/-- `findClient`; the slot is one more than the index, which may be the end. -/
def findClient (player : Player) (waitList : List WaitingClient) : Nat :=
  waitList.findIdx (·.isOf player)

/-- `WaitingList::getTime` -/
def getTime (slot : Nat) : Int :=
  if slot < 5 then 5
  else if slot < 10 then 10
  else if slot < 20 then 20
  else if slot < 50 then 60
  else 120

/-- `WaitingList::getTimeOut` -/
def getTimeOut (slot : Nat) : Int := getTime slot + 15

/-- `WaitingList::getClientSlot` -/
def getClientSlot (player : Player) (waitList : List WaitingClient) : Int :=
  let index := findClient player waitList
  if index < waitList.length then index + 1 else -1

/-- The seconds which `ProtocolGame::login` announces to a client it turns away. -/
def retryTime (player : Player) (waitList : List WaitingClient) : Int :=
  getTime (getClientSlot player waitList % 2 ^ 64).toNat

def WaitingClient.isExpired (now : Int) (client : WaitingClient) : Bool :=
  client.timeout - now ≤ 0

/-- The loop of `clean_wait_list`, with the number of entries still ahead. -/
def cleanFrom (now : Int) : Nat → Nat → List WaitingClient → Option (List WaitingClient)
  | 0, _, waitList => some waitList
  | steps + 1, index, waitList =>
    match waitList[index]? with
    | none => none
    | some client =>
      if client.isExpired now then
        -- the iterator is on the next entry already when it is advanced
        cleanFrom now steps (index + 1) (waitList.eraseIdx index)
      else cleanFrom now steps (index + 1) waitList

/-- `clean_wait_list` -/
def cleanWaitList (now : Int) (waitList : List WaitingClient) : Option (List WaitingClient) :=
  cleanFrom now waitList.length 0 waitList

/-- An attempt to log in, with the time and the status of the server then. -/
structure Attempt where
  player : Player
  now : Int
  playersOnline : Nat
  maxPlayersOnline : Nat

def newClient (player : Player) (now : Int) (slot : Nat) : WaitingClient where
  acc := player.account
  ip := player.ip
  name := player.name
  premium := player.isPremium
  timeout := now + getTimeOut slot * 1000

def Attempt.hasRoom (attempt : Attempt) (waitList : List WaitingClient) : Bool :=
  waitList.isEmpty && attempt.playersOnline < attempt.maxPlayersOnline

/-- The part of `clientLogin` after the cleaning. -/
def queueUp (attempt : Attempt) (waitList : List WaitingClient) : Bool × List WaitingClient :=
  let index := findClient attempt.player waitList
  let slot := index + 1
  if index < waitList.length then
    if attempt.playersOnline + slot ≤ attempt.maxPlayersOnline then
      (true, waitList.eraseIdx index)
    else
      -- let them wait a bit longer
      (false,
        waitList.modify index fun wait =>
          { wait with timeout := attempt.now + getTimeOut slot * 1000 })
  else
    (false, waitList ++ [newClient attempt.player attempt.now waitList.length])

/-- `WaitingList::clientLogin` -/
def clientLogin (attempt : Attempt) (waitList : List WaitingClient) :
  Option (Bool × List WaitingClient) :=
  if attempt.player.canAlwaysLogin then some (true, waitList)
  else if attempt.hasRoom waitList then some (true, waitList)
  else (cleanWaitList attempt.now waitList).map (queueUp attempt)

/-- The list between two attempts, with the time of the last one. -/
structure State where
  waitList : List WaitingClient
  clock : Int

def step (state : State) (attempt : Attempt) (next : State) : Prop :=
  state.clock ≤ attempt.now ∧
    next.clock = attempt.now ∧
      ∃ admitted, clientLogin attempt state.waitList = some (admitted, next.waitList)

abbrev Key := Nat × Nat × String

def WaitingClient.key (client : WaitingClient) : Key :=
  (client.acc, client.ip, client.name.toLower)

def Player.key (player : Player) : Key :=
  (player.account, player.ip, player.name.toLower)

def keys (waitList : List WaitingClient) : List Key :=
  waitList.map WaitingClient.key

def remaining (now : Int) (waitList : List WaitingClient) : List WaitingClient :=
  waitList.filter fun client => !client.isExpired now

def Attempt.queues (attempt : Attempt) (waitList : List WaitingClient) : Prop :=
  attempt.player.canAlwaysLogin = false ∧ attempt.hasRoom waitList = false

/--
No entry but the last one is to be dropped, and no new client is put at place 20
or 50, at which the announced time grows.
-/
def IsHarmless (state : State) (attempt : Attempt) : Prop :=
  attempt.queues state.waitList →
    (∀ client ∈ state.waitList.dropLast,
        client.isExpired attempt.now = false) ∧
      (attempt.player.key ∉ keys (remaining attempt.now state.waitList) →
        (remaining attempt.now state.waitList).length ≠ 19 ∧
          (remaining attempt.now state.waitList).length ≠ 49)

def IsOther (key : Key) (limit : Int) (state : State) (attempt : Attempt) : Prop :=
  IsHarmless state attempt ∧ attempt.player.key ≠ key ∧ attempt.now ≤ limit

/-- The client is on the list, and nobody has come before it. -/
def KeepsPlace (key : Key) (earlier later : List WaitingClient) : Prop :=
  ∃ front entry back,
    later = front ++ entry :: back ∧
      entry.key = key ∧ (keys front).Sublist ((keys earlier).takeWhile (· ≠ key))

structure IsFair (state : State) (attempt : Attempt) : Prop where
  cleaned :
    attempt.queues state.waitList →
      cleanWaitList attempt.now state.waitList = some (remaining attempt.now state.waitList)
  untouched :
    ¬ attempt.queues state.waitList →
      clientLogin attempt state.waitList = some (true, state.waitList)
  order :
    attempt.queues state.waitList →
      ∀ admitted next,
        clientLogin attempt state.waitList = some (admitted, next) →
          keys next =
            let rest := keys (remaining attempt.now state.waitList)
            if admitted then rest.erase attempt.player.key
            else if attempt.player.key ∈ rest then rest
            else rest ++ [attempt.player.key]
  admission :
    attempt.queues state.waitList →
      ∀ next,
        clientLogin attempt state.waitList = some (true, next) →
          let rest := keys (remaining attempt.now state.waitList)
          attempt.player.key ∈ rest ∧
            attempt.playersOnline + (rest.idxOf attempt.player.key + 1) ≤ attempt.maxPlayersOnline
  waiting :
    ∀ next,
      clientLogin attempt state.waitList = some (false, next) →
        let limit := attempt.now + retryTime attempt.player next * 1000
        ∀ later,
          Reaches step (IsOther attempt.player.key limit)
              ⟨next, attempt.now⟩ later →
            ∀ retry,
              later.clock ≤ retry →
                retry ≤ limit → KeepsPlace attempt.player.key next (remaining retry later.waitList)

/-! ## The cleaning -/

variable {index : Nat} {waitList front back : List WaitingClient} {state : State}
  {attempt : Attempt} {entry : WaitingClient}

section Cleaning

variable {now : Int}

lemma cleanFrom_outside {steps : Nat} (short : waitList.length < index + steps)
  (ahead : 0 < steps) : cleanFrom now steps index waitList = none := by
  induction steps generalizing index waitList with
  | zero => cases ahead
  | succ steps ih =>
    cases here : waitList[index]? with
    | none => rw [cleanFrom, here]
    | some client =>
      rcases List.getElem?_eq_some_iff.mp here with ⟨inside, _⟩
      have ahead' : 0 < steps := by omega
      simp only [cleanFrom, here]
      split
      · have fewer : (waitList.eraseIdx index).length ≤ waitList.length :=
          length_eraseIdx_le waitList index
        exact ih (by omega) ahead'
      · exact ih (by omega) ahead'

lemma remaining_append (one other : List WaitingClient) :
  remaining now (one ++ other) = remaining now one ++ remaining now other :=
  filter_append one other

lemma remaining_of_current (current : ∀ client ∈ waitList, client.isExpired now = false) :
  remaining now waitList = waitList := by
  apply filter_eq_self.mpr
  intro client mem
  rw [current client mem]
  rfl

/--
From an entry on, the loop stays within the list just if nothing before the last
entry is dropped; what remains is then what should remain.
-/
lemma cleanFrom_eq
  (front rest : List WaitingClient) (current : ∀ client ∈ front, client.isExpired now = false) :
  cleanFrom now rest.length front.length (front ++ rest) =
    if rest.dropLast.all fun client => !client.isExpired now then
      some (remaining now (front ++ rest))
    else none := by
  induction rest generalizing front with
  | nil =>
    rw [append_nil, remaining_of_current current]
    rfl
  | cons client rest ih =>
    have here : (front ++ client :: rest)[front.length]? = some client := by
      rw [List.getElem?_append_right (Nat.le_refl _), Nat.sub_self]
      rfl
    rw [length_cons, cleanFrom, here]
    cases expired : client.isExpired now with
    | false =>
      have current' : ∀ other ∈ front ++ [client], other.isExpired now = false := by
        intro other mem
        rcases mem_append.mp mem with old | last
        · exact current other old
        · rw [mem_singleton.mp last]
          exact expired
      have next := ih (front ++ [client]) current'
      rw [length_append, length_singleton, append_assoc, singleton_append] at next
      simp only [expired, Bool.false_eq_true, if_false, next]
      cases rest with
      | nil => rfl
      | cons other rest =>
        rw [dropLast_cons_cons, all_cons, expired]
        rfl
    | true =>
      have erased : (front ++ client :: rest).eraseIdx front.length = front ++ rest := by
        rw [eraseIdx_append_of_length_le (Nat.le_refl _), Nat.sub_self]
        rfl
      simp only [expired, if_true, erased]
      cases rest with
      | nil =>
        rw [remaining_append, remaining_of_current current]
        simp [cleanFrom, remaining, expired]
      | cons other rest =>
        rw [dropLast_cons_cons, all_cons, expired]
        apply cleanFrom_outside
        · rw [length_append]
          omega
        · exact Nat.succ_pos _

lemma cleanWaitList_iff (waitList : List WaitingClient) :
  cleanWaitList now waitList = some (remaining now waitList) ↔
    ∀ client ∈ waitList.dropLast, client.isExpired now = false := by
  have whole :
      cleanFrom now waitList.length 0 waitList =
        if waitList.dropLast.all fun client => !client.isExpired now then
          some (remaining now waitList)
        else none :=
    cleanFrom_eq [] waitList fun _ mem => by cases mem
  rw [cleanWaitList, whole]
  constructor
  · intro cleaned client mem
    split at cleaned
    · rename_i all
      have still := all_eq_true.mp all client mem
      rw [Bool.not_eq_true'] at still
      exact still
    · cases cleaned
  · intro current
    rw [if_pos]
    apply all_eq_true.mpr
    intro client mem
    rw [current client mem]
    rfl

end Cleaning

lemma WaitingClient.isOf_eq (player : Player) (client : WaitingClient) :
  client.isOf player = (client.key == player.key) := by
  rw [Bool.eq_iff_iff]
  simp [isOf, iequals, key, Player.key, and_assoc]

lemma findClient_eq (player : Player) (waitList : List WaitingClient) :
  findClient player waitList = (keys waitList).idxOf player.key := by
  induction waitList with
  | nil => rfl
  | cons client rest ih =>
    rw [findClient] at ih ⊢
    rw [findIdx_cons, keys, map_cons, idxOf_cons, WaitingClient.isOf_eq, ih]
    cases client.key == player.key
    · rfl
    · rfl

lemma findClient_lt_iff (player : Player) (waitList : List WaitingClient) :
  findClient player waitList < waitList.length ↔ player.key ∈ keys waitList := by
  rw [findClient_eq, ← idxOf_lt_length_iff, keys, length_map]

/-! ## Queueing up -/

section QueueingUp

variable {attempt : Attempt} {waitList next : List WaitingClient} {admitted : Bool}

lemma keys_modify (waitList : List WaitingClient) (index : Nat) (timeout : Int) :
  keys (waitList.modify index fun wait => { wait with timeout := timeout }) = keys waitList := by
  induction waitList generalizing index with
  | nil => rw [modify_nil]
  | cons client rest ih =>
    cases index with
    | zero => rfl
    | succ index =>
      exact congrArg (client.key :: ·) (ih index)

lemma keys_eraseIdx (waitList : List WaitingClient) (index : Nat) :
  keys (waitList.eraseIdx index) = (keys waitList).eraseIdx index :=
  (eraseIdx_map ..).symm

lemma keys_append (one other : List WaitingClient) :
  keys (one ++ other) = keys one ++ keys other :=
  map_append

lemma keys_sublist {some_of all : List WaitingClient} (sublist : some_of.Sublist all) :
  (keys some_of).Sublist (keys all) :=
  sublist.map WaitingClient.key

/-- The three ways in which an attempt ends after the cleaning. -/
lemma queueUp_cases (queued : queueUp attempt waitList = (admitted, next)) :
    (admitted = true ∧ attempt.player.key ∈ keys waitList ∧
        attempt.playersOnline +
            ((keys waitList).idxOf attempt.player.key + 1) ≤
          attempt.maxPlayersOnline ∧
        next = waitList.eraseIdx ((keys waitList).idxOf attempt.player.key)) ∨
      (admitted = false ∧ attempt.player.key ∈ keys waitList ∧
        next =
          waitList.modify ((keys waitList).idxOf attempt.player.key)
            fun wait =>
              { wait with
                timeout :=
                  attempt.now +
                    getTimeOut
                        ((keys waitList).idxOf attempt.player.key + 1) *
                      1000 }) ∨
      (admitted = false ∧ attempt.player.key ∉ keys waitList ∧
        next = waitList ++ [newClient attempt.player attempt.now waitList.length]) := by
  simp only [queueUp] at queued
  split at queued
  · rename_i found
    have member := (findClient_lt_iff _ _).mp found
    rw [findClient_eq] at queued
    split at queued
    · rename_i fits
      left
      cases queued
      exact ⟨rfl, member, fits, rfl⟩
    · right
      left
      cases queued
      exact ⟨rfl, member, rfl⟩
  · rename_i missing
    right
    right
    cases queued
    exact ⟨rfl, fun member => missing ((findClient_lt_iff _ _).mpr member), rfl⟩

lemma queueUp_keys (queued : queueUp attempt waitList = (admitted, next)) :
  keys next =
    if admitted then (keys waitList).erase attempt.player.key
    else if attempt.player.key ∈ keys waitList then keys waitList
    else keys waitList ++ [attempt.player.key] := by
  rcases queueUp_cases queued with ⟨rfl, mem, _, rfl⟩ | ⟨rfl, mem, rfl⟩ | ⟨rfl, absent, rfl⟩
  · rw [if_pos rfl, keys_eraseIdx, erase_eq_eraseIdx_of_idxOf rfl]
  · rw [if_neg Bool.false_ne_true, if_pos mem, keys_modify]
  · rw [if_neg Bool.false_ne_true, if_neg absent, keys, map_append]
    rfl

lemma clientLogin_queues (queues : attempt.queues waitList)
  (done : clientLogin attempt waitList = some (admitted, next)) :
  ∃ cleaned,
    cleanWaitList attempt.now waitList = some cleaned ∧
      queueUp attempt cleaned = (admitted, next) := by
  rw [clientLogin, queues.1, queues.2] at done
  exact map_eq_some_iff.mp done

lemma clientLogin_untouched (idle : ¬ attempt.queues waitList) :
  clientLogin attempt waitList = some (true, waitList) := by
  rw [clientLogin]
  cases always : attempt.player.canAlwaysLogin with
  | true => rfl
  | false =>
    cases room : attempt.hasRoom waitList with
    | true => rfl
    | false => exact absurd ⟨always, room⟩ idle

lemma IsHarmless.queued
  (harmless : IsHarmless state attempt) (queues : attempt.queues state.waitList)
  (done : clientLogin attempt state.waitList = some (admitted, next)) :
  queueUp attempt (remaining attempt.now state.waitList) = (admitted, next) := by
  rcases clientLogin_queues queues done with ⟨cleaned, cleaning, queued⟩
  have exactly := (cleanWaitList_iff state.waitList).mpr (harmless queues).1
  rw [exactly] at cleaning
  cases cleaning
  exact queued

end QueueingUp

lemma nodup_step {next : State} (nodup : (keys state.waitList).Nodup)
  (harmless : IsHarmless state attempt) (taken : step state attempt next) :
  (keys next.waitList).Nodup := by
  rcases taken with ⟨_, _, admitted, done⟩
  by_cases queues : attempt.queues state.waitList
  · have rest : (keys (remaining attempt.now state.waitList)).Nodup :=
      nodup.sublist (keys_sublist filter_sublist)
    rw [queueUp_keys (harmless.queued queues done)]
    split
    · exact rest.erase _
    · split
      · exact rest
      · rename_i absent
        rw [nodup_append]
        refine ⟨rest, nodup_singleton _, ?_⟩
        intro key mem other last same
        rw [mem_singleton.mp last] at same
        rw [same] at mem
        exact absent mem
  · rw [clientLogin_untouched queues] at done
    have same := (Prod.mk.inj (some.inj done)).2
    rw [← same]
    exact nodup

/-! ## Waiting for the announced time -/

section Waiting

variable {key : Key} {limit : Int} {places : List Key}

/--
The entry of a client lasts beyond the limit, and only those who were before it
are before it.
-/
structure Waits (key : Key) (limit : Int) (places : List Key) (waitList : List WaitingClient) :
  Prop where
  split :
    ∃ front entry back,
      waitList = front ++ entry :: back ∧
        entry.key = key ∧ limit < entry.timeout ∧ (keys front).Sublist places

lemma eraseIdx_split
  (front back : List WaitingClient) (entry : WaitingClient) (away : index ≠ front.length) :
  ∃ front' back',
    (front ++ entry :: back).eraseIdx index = front' ++ entry :: back' ∧
      (keys front').Sublist (keys front) := by
  rcases Nat.lt_or_gt_of_ne away with before | behind
  · exact ⟨front.eraseIdx index, back,
      eraseIdx_append_of_lt_length before _,
      keys_sublist (eraseIdx_sublist front index)⟩
  · rcases Nat.exists_eq_add_of_lt behind with ⟨further, rfl⟩
    refine ⟨front, back.eraseIdx further, ?_, List.Sublist.refl _⟩
    rw [eraseIdx_append_of_length_le (by omega)]
    have place : front.length + further + 1 - front.length = further + 1 := by
      omega
    rw [place]
    rfl

lemma modify_split (front back : List WaitingClient) (entry : WaitingClient) (timeout : Int)
  (away : index ≠ front.length) :
  ∃ front' back',
    (front ++ entry :: back).modify index
          (fun wait => { wait with timeout := timeout }) =
        front' ++ entry :: back' ∧
      (keys front').Sublist (keys front) := by
  induction front generalizing index with
  | nil =>
    cases index with
    | zero => exact absurd rfl away
    | succ index =>
      exact ⟨[], back.modify index _, modify_succ_cons ..,  List.Sublist.refl _⟩
  | cons first front ih =>
    cases index with
    | zero =>
      exact ⟨{ first with timeout := timeout } :: front, back, rfl, List.Sublist.refl _⟩
    | succ index =>
      have away' : index ≠ front.length := by
        rintro rfl
        exact away rfl
      rcases ih away' with ⟨front', back', split, sublist⟩
      refine ⟨first :: front', back', ?_, sublist.cons_cons first.key⟩
      rw [cons_append, modify_succ_cons, split]
      rfl

lemma idxOf_ne_of_key_ne {other : Key} (ne : entry.key ≠ other)
  (mem : other ∈ keys (front ++ entry :: back)) :
  (keys (front ++ entry :: back)).idxOf other ≠ front.length := by
  intro here
  have found := List.getElem?_idxOf mem
  rw [here, keys_append, List.getElem?_append_right (by simp [keys])] at found
  simp only [keys, length_map, Nat.sub_self, map_cons,
    List.getElem?_cons_zero, some.injEq] at found
  exact ne found

lemma Waits.queueUp {next : List WaitingClient} {admitted : Bool}
  (waits : Waits key limit places waitList) (other : attempt.player.key ≠ key)
  (queued : queueUp attempt waitList = (admitted, next)) : Waits key limit places next := by
  rcases waits.split with ⟨front, entry, back, rfl, own, late, sublist⟩
  have ne : entry.key ≠ attempt.player.key := by
    rw [own]
    exact other.symm
  rcases queueUp_cases queued with ⟨_, mem, _, rfl⟩ | ⟨_, mem, rfl⟩ | ⟨_, _, rfl⟩
  · rcases eraseIdx_split front back entry
        (idxOf_ne_of_key_ne ne mem) with
      ⟨front', back', split, fewer⟩
    exact ⟨⟨front', entry, back', split, own, late, fewer.trans sublist⟩⟩
  · rcases modify_split front back entry _
        (idxOf_ne_of_key_ne ne mem) with
      ⟨front', back', split, fewer⟩
    exact ⟨⟨front', entry, back', split, own, late, fewer.trans sublist⟩⟩
  · exact ⟨⟨front, entry, _, append_assoc .., own, late, sublist⟩⟩

lemma Waits.remaining
  {now : Int} (waits : Waits key limit places waitList) (early : now ≤ limit) :
  Waits key limit places (remaining now waitList) := by
  rcases waits.split with ⟨front, entry, back, rfl, own, late, sublist⟩
  have current : entry.isExpired now = false := by
    rw [WaitingClient.isExpired, decide_eq_false_iff_not]
    omega
  refine ⟨⟨OTServ.Login.remaining now front, entry,
    OTServ.Login.remaining now back, ?_, own, late, ?_⟩⟩
  · rw [remaining_append]
    congr 1
    rw [OTServ.Login.remaining, filter_cons, current]
    rfl
  · exact (keys_sublist filter_sublist).trans sublist

lemma Waits.step {next : State} (waits : Waits key limit places state.waitList)
  (other : IsOther key limit state attempt) (taken : step state attempt next) :
  Waits key limit places next.waitList := by
  rcases other with ⟨harmless, ne, early⟩
  rcases taken with ⟨_, _, admitted, done⟩
  by_cases queues : attempt.queues state.waitList
  · exact (waits.remaining early).queueUp ne (harmless.queued queues done)
  · rw [clientLogin_untouched queues] at done
    have same := (Prod.mk.inj (some.inj done)).2
    rw [← same]
    exact waits

lemma Waits.run {start finish : State} (waits : Waits key limit places start.waitList)
  (run : Reaches OTServ.Login.step (IsOther key limit) start finish) :
  Waits key limit places finish.waitList := by
  induction run with
  | refl => exact waits
  | tail _ other taken ih => exact ih.step other taken

lemma getTime_mono {slot later : Nat} (before : slot ≤ later) :
  getTime slot ≤ getTime later := by
  simp only [getTime]
  split_ifs <;> omega

lemma retryTime_le {player : Player} (mem : player.key ∈ keys waitList) :
  retryTime player waitList ≤ getTime ((keys waitList).idxOf player.key + 1) := by
  have inside := (findClient_lt_iff _ _).mpr mem
  rw [retryTime, getClientSlot, if_pos inside, findClient_eq]
  apply getTime_mono
  omega

lemma getTime_succ_iff (slot : Nat) :
  getTime (slot + 1) < getTimeOut slot ↔ slot ≠ 19 ∧ slot ≠ 49 := by
  simp only [getTimeOut, getTime]
  split_ifs <;> omega

lemma idxOf_split (absent : entry.key ∉ keys front) :
  (keys (front ++ entry :: back)).idxOf entry.key = front.length := by
  rw [keys_append, idxOf_append_of_notMem absent]
  rw [keys, keys, map_cons, idxOf_cons_self, length_map, Nat.add_zero]

lemma takeWhile_split (absent : entry.key ∉ keys front) :
  (keys (front ++ entry :: back)).takeWhile (· ≠ entry.key) = keys front := by
  rw [keys_append, takeWhile_append_of_pos]
  · rw [keys, keys, map_cons, takeWhile_cons_of_neg (by simp), append_nil]
  · intro other mem
    rw [decide_eq_true_iff]
    rintro rfl
    exact absent mem

lemma exists_first (mem : key ∈ keys waitList) :
  ∃ front entry back,
    waitList = front ++ entry :: back ∧ entry.key = key ∧ key ∉ keys front := by
  rcases eq_append_cons_of_mem mem with ⟨ahead, behind, split, first⟩
  rcases map_eq_append_iff.mp split with ⟨front, rest, rfl, rfl, tail⟩
  rcases map_eq_cons_iff.mp tail with ⟨entry, back, rfl, own, _⟩
  exact ⟨front, entry, back, rfl, own, first⟩

lemma modify_here (front back : List WaitingClient) (entry : WaitingClient) (timeout : Int) :
  (front ++ entry :: back).modify front.length
      (fun wait => { wait with timeout := timeout }) =
    front ++ { entry with timeout := timeout } :: back := by
  induction front with
  | nil => rfl
  | cons first front ih =>
    rw [cons_append, length_cons, modify_succ_cons, ih]
    rfl

lemma turnedAway_waits
  {next : List WaitingClient} (queued : queueUp attempt waitList = (false, next))
  (steady : attempt.player.key ∉ keys waitList → waitList.length ≠ 19 ∧ waitList.length ≠ 49) :
  Waits attempt.player.key
    (attempt.now + retryTime attempt.player next * 1000)
    ((keys next).takeWhile (· ≠ attempt.player.key)) next := by
  have told : attempt.player.key ∈ keys next := by
    rw [queueUp_keys queued, if_neg Bool.false_ne_true]
    split
    · assumption
    · exact mem_append_right _ mem_cons_self
  have announced := retryTime_le told
  -- it is enough that the entry lasts longer than its place calls for
  have suffices_split :
      ∀ front entry back,
        next = front ++ entry :: back →
          entry.key = attempt.player.key →
            attempt.player.key ∉ keys front →
              attempt.now + getTime (front.length + 1) * 1000 <
                  entry.timeout →
                Waits attempt.player.key
                  (attempt.now + retryTime attempt.player next * 1000)
                  ((keys next).takeWhile (· ≠ attempt.player.key)) next := by
    intro front entry back split own first late
    rw [← own] at first announced
    rw [split, idxOf_split first] at announced
    refine ⟨⟨front, entry, back, split, own, ?_, ?_⟩⟩
    · rw [split]
      omega
    · rw [split, ← own, takeWhile_split first]
  rcases queueUp_cases queued with ⟨impossible, _⟩ | ⟨_, mem, changed⟩ | ⟨_, absent, added⟩
  · cases impossible
  · rcases exists_first mem with ⟨front, entry, back, split, own, first⟩
    rw [← own] at first changed
    rw [split, idxOf_split first, modify_here] at changed
    apply suffices_split front _ back changed own
    · rw [← own]
      exact first
    · show attempt.now + _ < attempt.now + getTimeOut (front.length + 1) * 1000
      rw [getTimeOut]
      omega
  · apply suffices_split waitList _ [] added rfl absent
    have longer := (getTime_succ_iff waitList.length).mpr (steady absent)
    show attempt.now + _ < attempt.now + getTimeOut waitList.length * 1000
    omega

end Waiting

lemma IsHarmless.fair (harmless : IsHarmless state attempt) : IsFair state attempt where
  cleaned queues := (cleanWaitList_iff state.waitList).mpr (harmless queues).1
  untouched := clientLogin_untouched
  order queues _ _ done := queueUp_keys (harmless.queued queues done)
  admission queues next done := by
    rcases queueUp_cases (harmless.queued queues done) with
      ⟨_, mem, fits, _⟩ | ⟨impossible, _⟩ | ⟨impossible, _⟩
    · exact ⟨mem, fits⟩
    · cases impossible
    · cases impossible
  waiting next done := by
    intro limit later run retry _ early
    have queues : attempt.queues state.waitList := by
      by_contra idle
      rw [clientLogin_untouched idle] at done
      cases done
    have waits := turnedAway_waits (harmless.queued queues done) (harmless queues).2
    rcases ((waits.run run).remaining early).split with
      ⟨front, entry, back, split, own, _, sublist⟩
    exact ⟨front, entry, back, split, own, sublist⟩

/--
In a run in which never another entry than the last one is dropped, and no new
client comes to place 20 or 50, everyone is on the list at most once, and every
attempt is fair to those who wait.
-/
theorem waiting_list_is_fair {start finish : State} (empty : start.waitList = [])
  (run : Reaches step IsHarmless start finish) :
  (keys finish.waitList).Nodup ∧
    ∀ attempt, IsHarmless finish attempt → IsFair finish attempt := by
  have initially : (keys start.waitList).Nodup := by
    rw [empty]
    exact nodup_nil
  have nodup : (keys finish.waitList).Nodup :=
    run.invariant initially fun _ _ _ nodup harmless taken => nodup_step nodup harmless taken
  exact ⟨nodup, fun _ harmless => harmless.fair⟩

def owner (account : Nat) : Player where
  account := account
  ip := 0
  name := "Owner"
  isPremium := false
  canAlwaysLogin := false

/-- An attempt while ten players are online, which is all there may be. -/
def knock (account : Nat) (now : Int) : Attempt where
  player := owner account
  now := now
  playersOnline := 10
  maxPlayersOnline := 10

def nobody : State where
  waitList := []
  clock := 0

def oneWaits : State where
  waitList := [newClient (owner 1) 0 0]
  clock := 0

def twoWait : State where
  waitList := [newClient (owner 1) 0 0, newClient (owner 2) 0 1]
  clock := 0

lemma first_step : step nobody (knock 1 0) oneWaits :=
  ⟨Int.le_refl 0, rfl, false, rfl⟩

lemma second_step : step oneWaits (knock 2 0) twoWait :=
  ⟨Int.le_refl 0, rfl, false, by decide +kernel⟩

/-- The first client waits, and the next attempt is fair to it. -/
theorem waiting_list_is_fair_first :
  (keys oneWaits.waitList).Nodup ∧
    ∀ attempt, IsHarmless oneWaits attempt → IsFair oneWaits attempt := by
  have harmless : IsHarmless nobody (knock 1 0) := by
    intro _
    constructor
    · intro _ member
      cases member
    · intro _
      decide
  exact waiting_list_is_fair rfl (.tail .refl harmless first_step)

/-- Two clients do not come again; cleaning the list leaves it after a minute. -/
theorem cleaning_leaves_list :
  Reaches step Always nobody twoWait ∧
    twoWait.clock ≤ (knock 3 60000).now ∧
      (knock 3 60000).queues twoWait.waitList ∧
        cleanWaitList 60000 twoWait.waitList = none ∧ remaining 60000 twoWait.waitList = [] := by
  have first : Reaches step Always nobody oneWaits := .tail .refl trivial first_step
  have second : Reaches step Always nobody twoWait := .tail first trivial second_step
  refine ⟨second, ?_, ⟨rfl, rfl⟩, rfl, rfl⟩
  decide

end OTServ.Login
