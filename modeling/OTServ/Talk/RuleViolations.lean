import OTServ.Library.GuardedRuns
import OTServ.Library.OrderedMap
import Mathlib.Data.List.Nodup
import Mathlib.Data.Nat.Basic

/-!
# Reports of rule violations

A player reports a rule violation, a gamemaster takes the report, and it is closed,
cancelled, or goes with one of the two.  The reports are kept by the id of the
reporter, and point to the reporter and to the gamemaster.

Players are numbered as they log in, which is their id; reports have numbers of their
own.  Who takes a report and why it is removed is recorded beside the map; what clients
are sent is left out.
-/

namespace OTServ.Talk.RuleViolations

open Library
open Library.GuardedRuns
open List Function Option

structure Player where
  name : List Char
  /-- `PlayerFlag_CanAnswerRuleViolations` -/
  canAnswerRuleViolations : Bool
  online : Bool
deriving DecidableEq

structure RuleViolation where
  number : Nat
  reporter : Nat
  gamemaster : Option Nat
  text : String
  time : Nat
  isOpen : Bool
deriving DecidableEq

inductive Cause where
  /-- its reporter cancels it, reports again or leaves -/
  | cancelled (player : Nat)
  | closed (player : Nat)
  /-- its gamemaster leaves -/
  | left (gamemaster : Nat)
deriving DecidableEq

structure Game where
  players : Nat → Player
  next : Nat
  /-- `Player::listPlayer`, by id -/
  listPlayer : List Nat
  ruleViolations : OrderedMap Nat RuleViolation
  nextReport : Nat
  ALLOW_CLONES : Bool
  /-- the reports that have been taken, and by whom -/
  taken : List (Nat × Nat)
  removed : List (RuleViolation × Cause)

namespace Game

def initial (ALLOW_CLONES : Bool) : Game where
  players _ := ⟨[], false, false⟩
  next := 0
  listPlayer := []
  ruleViolations := .empty
  nextReport := 0
  ALLOW_CLONES := ALLOW_CLONES
  taken := []
  removed := []

def asUpperCaseString (source : List Char) : List Char :=
  source.map Char.toUpper

def getPlayerByName (game : Game) (name : List Char) : Option Nat :=
  game.listPlayer.find? fun p => asUpperCaseString name == asUpperCaseString (game.players p).name

def eraseReport (game : Game) (reporter : Nat) (cause : Cause) : Game :=
  match game.ruleViolations.find? reporter with
  | none => game
  | some report =>
    { game with
      ruleViolations := game.ruleViolations.erase reporter
      removed := game.removed ++ [(report, cause)] }

def cancelRuleViolation (game : Game) (player : Nat) : Game :=
  game.eraseReport player (.cancelled player)

/-- `closeRuleViolation`, with the one who calls it. -/
def closeRuleViolation (game : Game) (player : Nat) (cause : Cause) : Game :=
  game.eraseReport player cause

def playerReportRuleViolation (game : Game) (player : Nat) (text : String) (time : Nat) : Game :=
  if game.ALLOW_CLONES then game
  else
    let game := game.cancelRuleViolation player
    { game with
      ruleViolations :=
        game.ruleViolations.insert player ⟨game.nextReport, player, none, text, time, true⟩
      nextReport := game.nextReport + 1 }

def playerContinueReport (game : Game) (player : Nat) : Option Nat :=
  match game.ruleViolations.find? player with
  | none => none
  | some report => report.gamemaster

def playerProcessRuleViolation (game : Game) (player : Nat) (name : List Char) : Game :=
  if (game.players player).online = false then game
  else if (game.players player).canAnswerRuleViolations = false then game
  else
    match game.getPlayerByName name with
    | none => game
    | some reporter =>
      match game.ruleViolations.find? reporter with
      | none => game
      | some report =>
        if report.isOpen = false then game
        else
          { game with
            ruleViolations :=
              game.ruleViolations.insert reporter
                { report with isOpen := false, gamemaster := some player }
            taken := game.taken ++ [(report.number, player)] }

def playerCloseRuleViolation (game : Game) (player : Nat) (name : List Char) : Game :=
  if (game.players player).online = false then game
  else
    match game.getPlayerByName name with
    | none => game
    | some reporter => game.closeRuleViolation reporter (.closed player)

def playerCancelRuleViolation (game : Game) (player : Nat) : Game :=
  if (game.players player).online = false then game
  else game.cancelRuleViolation player

def placeCreature (game : Game) (name : List Char) (canAnswer : Bool) : Game :=
  { game with
    players := update game.players game.next ⟨name, canAnswer, true⟩
    next := game.next + 1
    listPlayer := game.listPlayer ++ [game.next] }

def closeReportList (game : Game) (player : Nat) : List Nat :=
  (game.ruleViolations.entries.filter fun entry =>
    entry.2.gamemaster = some player).map fun entry => entry.2.reporter

/-- The reports in `Player::onCreatureDisappear`. -/
def onCreatureDisappear (game : Game) (player : Nat) : Game :=
  let game := game.cancelRuleViolation player
  if (game.players player).canAnswerRuleViolations then
    (game.closeReportList player).foldl
      (fun game reporter => game.closeRuleViolation reporter (.left player)) game
  else
    game

def removeCreature (game : Game) (player : Nat) : Game :=
  if (game.players player).online = false then game
  else
    let game := game.onCreatureDisappear player
    { game with
      players := update game.players player { game.players player with online := false }
      listPlayer := game.listPlayer.erase player }

inductive Operation where
  | placeCreature (name : List Char) (canAnswer : Bool)
  | playerReportRuleViolation (player : Nat) (text : String) (time : Nat)
  | playerContinueReport (player : Nat)
  | playerProcessRuleViolation (player : Nat) (name : List Char)
  | playerCloseRuleViolation (player : Nat) (name : List Char)
  | playerCancelRuleViolation (player : Nat)
  | removeCreature (player : Nat)
deriving DecidableEq

def step (game : Game) : Operation → Game
  | .placeCreature name canAnswer => game.placeCreature name canAnswer
  | .playerReportRuleViolation player text time =>
    game.playerReportRuleViolation player text time
  | .playerContinueReport _ => game
  | .playerProcessRuleViolation player name => game.playerProcessRuleViolation player name
  | .playerCloseRuleViolation player name => game.playerCloseRuleViolation player name
  | .playerCancelRuleViolation player => game.playerCancelRuleViolation player
  | .removeCreature player => game.removeCreature player

def Justified (game : Game) (report : RuleViolation) : Cause → Prop
  | .cancelled player => player = report.reporter
  | .closed player => (game.players player).canAnswerRuleViolations = true
  | .left gamemaster =>
    report.gamemaster = some gamemaster ∧ (game.players gamemaster).online = false

structure Attended (game : Game) : Prop where
  /-- every report is that of a player who is online -/
  reporters :
    ∀ id report, game.ruleViolations.find? id = some report →
      report.reporter = id ∧ (game.players id).online = true
  /-- an open report has no gamemaster -/
  unattended :
    ∀ id report, game.ruleViolations.find? id = some report →
      report.isOpen = true → report.gamemaster = none
  /-- another one has a gamemaster who is online and may answer -/
  attended :
    ∀ id report, game.ruleViolations.find? id = some report →
      report.isOpen = false →
        ∃ gamemaster, report.gamemaster = some gamemaster ∧
          (game.players gamemaster).online = true ∧
            (game.players gamemaster).canAnswerRuleViolations = true
  /-- no report is taken twice -/
  once : (game.taken.map Prod.fst).Nodup
  justified : ∀ entry ∈ game.removed, game.Justified entry.1 entry.2

/--
Who closes a report may answer reports, and who reports is online: no talk action has
removed the player before.
-/
def Permitted (game : Game) : Operation → Prop
  | .playerReportRuleViolation player _ _ => (game.players player).online = true
  | .playerCloseRuleViolation player name =>
    (game.players player).online = false ∨
      (game.players player).canAnswerRuleViolations = true ∨
        ∀ reporter, game.getPlayerByName name = some reporter →
          game.ruleViolations.find? reporter = none
  | _ => True

/-! ## The invariant -/

def JustifiedBy (leaving : Option Nat) (game : Game) (report : RuleViolation) : Cause → Prop
  | .cancelled player => player = report.reporter
  | .closed player =>
    player < game.next ∧ (game.players player).canAnswerRuleViolations = true
  | .left gamemaster =>
    gamemaster < game.next ∧ report.gamemaster = some gamemaster ∧
      ((game.players gamemaster).online = false ∨ leaving = some gamemaster)

structure Kept (leaving : Option Nat) (game : Game) : Prop where
  reporters :
    ∀ id report, game.ruleViolations.find? id = some report →
      report.reporter = id ∧ (game.players id).online = true
  unattended :
    ∀ id report, game.ruleViolations.find? id = some report →
      report.isOpen = true → report.gamemaster = none
  attended :
    ∀ id report, game.ruleViolations.find? id = some report →
      report.isOpen = false →
        ∃ gamemaster, report.gamemaster = some gamemaster ∧
          (game.players gamemaster).online = true ∧
            (game.players gamemaster).canAnswerRuleViolations = true
  once : (game.taken.map Prod.fst).Nodup
  justified : ∀ entry ∈ game.removed, JustifiedBy leaving game entry.1 entry.2
  numbered :
    ∀ id report, game.ruleViolations.find? id = some report → report.number < game.nextReport
  distinct :
    ∀ id other report another, game.ruleViolations.find? id = some report →
      game.ruleViolations.find? other = some another → report.number = another.number → id = other
  untaken :
    ∀ id report, game.ruleViolations.find? id = some report →
      report.isOpen = true → report.number ∉ game.taken.map Prod.fst
  taken : ∀ number ∈ game.taken.map Prod.fst, number < game.nextReport
  listed : ∀ p, p ∈ game.listPlayer ↔ (game.players p).online = true
  nodup : game.listPlayer.Nodup
  born : ∀ p, (game.players p).online = true → p < game.next

section Steps

variable {game : Game} {leaving : Option Nat}

lemma Kept.eraseReport (kept : Kept leaving game) {reporter : Nat} {cause : Cause}
  (justified :
    ∀ report, game.ruleViolations.find? reporter = some report →
      JustifiedBy leaving game report cause) :
  Kept leaving (game.eraseReport reporter cause) := by
  unfold Game.eraseReport
  cases found : game.ruleViolations.find? reporter with
  | none => exact kept
  | some report =>
    have before : ∀ id other,
        (game.ruleViolations.erase reporter).find? id = some other →
          game.ruleViolations.find? id = some other :=
      fun id other still => (OrderedMap.find?_of_erase still).2
    exact
      { reporters := fun id other still => kept.reporters id other (before id other still)
        unattended := fun id other still => kept.unattended id other (before id other still)
        attended := fun id other still => kept.attended id other (before id other still)
        once := kept.once
        justified := by
          intro entry mem
          rcases mem_append.mp mem with old | new
          · exact kept.justified entry old
          · rw [mem_singleton] at new
            rw [new]
            exact justified report found
        numbered := fun id other still => kept.numbered id other (before id other still)
        distinct := fun id other first second still too =>
          kept.distinct id other first second (before id first still) (before other second too)
        untaken := fun id other still => kept.untaken id other (before id other still)
        taken := kept.taken
        listed := kept.listed
        nodup := kept.nodup
        born := kept.born }

lemma Kept.cancelRuleViolation (kept : Kept leaving game) (player : Nat) :
  Kept leaving (game.cancelRuleViolation player) :=
  kept.eraseReport fun report found => (kept.reporters player report found).1.symm

lemma eraseReport_find? (reporter id : Nat) (cause : Cause) :
  (game.eraseReport reporter cause).ruleViolations.find? id =
    if id = reporter then none else game.ruleViolations.find? id := by
  unfold Game.eraseReport
  cases found : game.ruleViolations.find? reporter with
  | none =>
    split_ifs with same
    · rw [same, found]
    · rfl
  | some report => exact OrderedMap.find?_erase game.ruleViolations reporter id

lemma eraseReport_players (reporter : Nat) (cause : Cause) :
  (game.eraseReport reporter cause).players = game.players := by
  unfold Game.eraseReport
  split <;> rfl

lemma eraseReport_next (reporter : Nat) (cause : Cause) :
  (game.eraseReport reporter cause).next = game.next := by
  unfold Game.eraseReport
  split <;> rfl

lemma Kept.playerReportRuleViolation (kept : Kept leaving game) {player : Nat}
  (online : (game.players player).online = true) (text : String) (time : Nat) :
  Kept leaving (game.playerReportRuleViolation player text time) := by
  unfold Game.playerReportRuleViolation
  split_ifs
  · exact kept
  · have cancelled := kept.cancelRuleViolation player
    have stays : ((game.cancelRuleViolation player).players player).online = true := by
      rw [Game.cancelRuleViolation, eraseReport_players]
      exact online
    generalize game.cancelRuleViolation player = after at cancelled stays
    have cases_ : ∀ id report,
        (after.ruleViolations.insert player
          ⟨after.nextReport, player, none, text, time, true⟩).find? id = some report →
        (id = player ∧ report = ⟨after.nextReport, player, none, text, time, true⟩) ∨
          (id ≠ player ∧ after.ruleViolations.find? id = some report) := by
      intro id report found
      rw [OrderedMap.find?_insert] at found
      split_ifs at found with same
      · exact Or.inl ⟨same, (some.inj found).symm⟩
      · exact Or.inr ⟨same, found⟩
    refine { cancelled with
      reporters := ?_
      unattended := ?_
      attended := ?_
      numbered := ?_
      distinct := ?_
      untaken := ?_
      taken := fun number mem => Nat.lt_succ_of_lt (cancelled.taken number mem) }
    · intro id report found
      rcases cases_ id report found with ⟨rfl, rfl⟩ | ⟨_, old⟩
      · exact ⟨rfl, stays⟩
      · exact cancelled.reporters id report old
    · intro id report found isOpen
      rcases cases_ id report found with ⟨rfl, rfl⟩ | ⟨_, old⟩
      · rfl
      · exact cancelled.unattended id report old isOpen
    · intro id report found closed
      rcases cases_ id report found with ⟨rfl, rfl⟩ | ⟨_, old⟩
      · cases closed
      · exact cancelled.attended id report old closed
    · intro id report found
      rcases cases_ id report found with ⟨rfl, rfl⟩ | ⟨_, old⟩
      · exact Nat.lt_succ_self _
      · exact Nat.lt_succ_of_lt (cancelled.numbered id report old)
    · intro id other report another found too same
      rcases cases_ id report found with ⟨rfl, rfl⟩ | ⟨_, old⟩
      · rcases cases_ other another too with ⟨rfl, rfl⟩ | ⟨_, older⟩
        · rfl
        · have less := cancelled.numbered other another older
          rw [← same] at less
          exact (Nat.lt_irrefl _ less).elim
      · rcases cases_ other another too with ⟨rfl, rfl⟩ | ⟨_, older⟩
        · have less := cancelled.numbered id report old
          rw [same] at less
          exact (Nat.lt_irrefl _ less).elim
        · exact cancelled.distinct id other report another old older same
    · intro id report found isOpen
      rcases cases_ id report found with ⟨rfl, rfl⟩ | ⟨_, old⟩
      · exact fun mem => Nat.lt_irrefl _ (cancelled.taken _ mem)
      · exact cancelled.untaken id report old isOpen

lemma Kept.playerProcessRuleViolation (kept : Kept leaving game) (player : Nat)
  (name : List Char) : Kept leaving (game.playerProcessRuleViolation player name) := by
  unfold Game.playerProcessRuleViolation
  split_ifs with offline mayNot
  · exact kept
  · exact kept
  · cases game.getPlayerByName name with
    | none => exact kept
    | some reporter =>
      dsimp only
      cases found : game.ruleViolations.find? reporter with
      | none => exact kept
      | some report =>
        dsimp only
        split_ifs with closed
        · exact kept
        · rw [Bool.not_eq_false] at offline mayNot closed
          have cases_ : ∀ id other,
              (game.ruleViolations.insert reporter
                { report with isOpen := false, gamemaster := some player }).find? id = some other →
              (id = reporter ∧
                other = { report with isOpen := false, gamemaster := some player }) ∨
              (id ≠ reporter ∧ game.ruleViolations.find? id = some other) := by
            intro id other still
            rw [OrderedMap.find?_insert] at still
            split_ifs at still with same
            · exact Or.inl ⟨same, (some.inj still).symm⟩
            · exact Or.inr ⟨same, still⟩
          have older : ∀ id other,
              (game.ruleViolations.insert reporter
                { report with isOpen := false, gamemaster := some player }).find? id = some other →
              ∃ former, game.ruleViolations.find? id = some former ∧
                other.number = former.number ∧ other.reporter = former.reporter := by
            intro id other still
            rcases cases_ id other still with ⟨rfl, rfl⟩ | ⟨_, old⟩
            · exact ⟨report, found, rfl, rfl⟩
            · exact ⟨other, old, rfl, rfl⟩
          refine { kept with
            reporters := ?_
            unattended := ?_
            attended := ?_
            once := ?_
            numbered := ?_
            distinct := ?_
            untaken := ?_
            taken := ?_ }
          · intro id other still
            obtain ⟨former, old, _, same⟩ := older id other still
            rw [same]
            exact kept.reporters id former old
          · intro id other still isOpen
            rcases cases_ id other still with ⟨rfl, rfl⟩ | ⟨_, old⟩
            · cases isOpen
            · exact kept.unattended id other old isOpen
          · intro id other still isClosed
            rcases cases_ id other still with ⟨rfl, rfl⟩ | ⟨_, old⟩
            · exact ⟨player, rfl, offline, mayNot⟩
            · exact kept.attended id other old isClosed
          · dsimp only
            rw [map_append]
            refine kept.once.append (nodup_singleton _) ?_
            intro number old new
            rw [map_singleton, mem_singleton] at new
            rw [new] at old
            exact kept.untaken reporter report found closed old
          · intro id other still
            obtain ⟨former, old, same, _⟩ := older id other still
            rw [same]
            exact kept.numbered id former old
          · intro id another first second still too same
            obtain ⟨former, old, number, _⟩ := older id first still
            obtain ⟨latter, late, numeral, _⟩ := older another second too
            exact kept.distinct id another former latter old late
              (number.symm.trans (same.trans numeral))
          · intro id other still isOpen
            rcases cases_ id other still with ⟨rfl, rfl⟩ | ⟨ne, old⟩
            · cases isOpen
            · dsimp only
              rw [map_append, mem_append, not_or]
              refine ⟨kept.untaken id other old isOpen, ?_⟩
              rw [map_singleton, mem_singleton]
              exact fun same => ne (kept.distinct id reporter other report old found same)
          · intro number mem
            rw [map_append, mem_append] at mem
            rcases mem with old | new
            · exact kept.taken number old
            · rw [map_singleton, mem_singleton] at new
              rw [new]
              exact kept.numbered reporter report found

lemma Kept.placeCreature (kept : Kept none game) (name : List Char) (canAnswer : Bool) :
  Kept none (game.placeCreature name canAnswer) := by
  have old : ∀ p, p < game.next →
      (game.placeCreature name canAnswer).players p = game.players p :=
    fun p before => update_of_ne (Nat.ne_of_lt before) ..
  have offline : (game.players game.next).online ≠ true := fun online =>
    Nat.lt_irrefl _ (kept.born _ online)
  refine { kept with
    reporters := ?_
    attended := ?_
    justified := ?_
    listed := ?_
    nodup := ?_
    born := ?_ }
  · intro id report found
    obtain ⟨same, online⟩ := kept.reporters id report found
    rw [old id (kept.born id online)]
    exact ⟨same, online⟩
  · intro id report found closed
    obtain ⟨gamemaster, has, online, may⟩ := kept.attended id report found closed
    refine ⟨gamemaster, has, ?_⟩
    rw [old gamemaster (kept.born gamemaster online)]
    exact ⟨online, may⟩
  · rintro ⟨report, cause⟩ mem
    have before := kept.justified _ mem
    cases cause with
    | cancelled player => exact before
    | closed player =>
      refine ⟨Nat.lt_succ_of_lt before.1, ?_⟩
      rw [old player before.1]
      exact before.2
    | left gamemaster =>
      refine ⟨Nat.lt_succ_of_lt before.1, before.2.1, ?_⟩
      rw [old gamemaster before.1]
      exact before.2.2
  · intro p
    unfold Game.placeCreature
    dsimp only
    rw [mem_append, mem_singleton, kept.listed]
    by_cases same : p = game.next
    · rw [same, update_self]
      exact iff_of_true (Or.inr rfl) rfl
    · rw [update_of_ne same]
      exact or_iff_left same
  · refine kept.nodup.append (nodup_singleton _) ?_
    intro p inList isNew
    rw [mem_singleton] at isNew
    rw [isNew] at inList
    exact offline ((kept.listed _).mp inList)
  · intro p online
    by_cases same : p = game.next
    · rw [same]
      exact Nat.lt_succ_self _
    · have before : (game.placeCreature name canAnswer).players p = game.players p :=
        update_of_ne same ..
      rw [before] at online
      exact Nat.lt_succ_of_lt (kept.born p online)

/-! ## Leaving -/

/-- The reports of a gamemaster are closed one after the other. -/
lemma Kept.closeReports {player : Nat} {reporters : List Nat} {game : Game}
  (kept : Kept (some player) game) (born : player < game.next)
  (own :
    ∀ reporter ∈ reporters, ∀ report,
      game.ruleViolations.find? reporter = some report → report.gamemaster = some player) :
  Kept (some player)
    (reporters.foldl
      (fun game reporter => game.closeRuleViolation reporter (.left player)) game) := by
  induction reporters generalizing game with
  | nil => exact kept
  | cons reporter rest ih =>
    rw [foldl_cons]
    refine ih (kept.eraseReport ?_) ?_ ?_
    · intro report found
      exact ⟨born, own reporter mem_cons_self report found, Or.inr rfl⟩
    · rw [Game.closeRuleViolation, eraseReport_next]
      exact born
    · intro other mem report found
      rw [Game.closeRuleViolation, eraseReport_find?] at found
      split_ifs at found
      exact own other (mem_cons_of_mem _ mem) report found

lemma closeReports_find? (player id : Nat) (reporters : List Nat) (game : Game) :
  (reporters.foldl
    (fun game reporter => game.closeRuleViolation reporter (.left player))
      game).ruleViolations.find? id =
    if id ∈ reporters then none else game.ruleViolations.find? id := by
  induction reporters generalizing game with
  | nil => rfl
  | cons reporter rest ih =>
    rw [foldl_cons, ih, Game.closeRuleViolation, eraseReport_find?]
    by_cases later : id ∈ rest
    · rw [if_pos later, if_pos (mem_cons_of_mem _ later)]
    · rw [if_neg later]
      by_cases same : id = reporter
      · rw [if_pos same, if_pos (same ▸ mem_cons_self)]
      · rw [if_neg same, if_neg]
        exact fun mem => (mem_cons.mp mem).elim same later

lemma closeReports_players (player : Nat) (reporters : List Nat) (game : Game) :
  (reporters.foldl
    (fun game reporter => game.closeRuleViolation reporter (.left player))
      game).players = game.players := by
  induction reporters generalizing game with
  | nil => rfl
  | cons reporter rest ih =>
    rw [foldl_cons, ih, Game.closeRuleViolation, eraseReport_players]

lemma mem_closeReportList (kept : Kept leaving game) {player id : Nat} :
  id ∈ game.closeReportList player ↔
    ∃ report, game.ruleViolations.find? id = some report ∧ report.gamemaster = some player := by
  unfold Game.closeReportList
  rw [List.mem_map]
  constructor
  · rintro ⟨⟨key, report⟩, mem, rfl⟩
    rw [mem_filter, decide_eq_true_eq] at mem
    have found := (OrderedMap.mem_entries_iff _ key report).mp mem.1
    have same := (kept.reporters key report found).1
    rw [same]
    exact ⟨report, found, mem.2⟩
  · rintro ⟨report, found, has⟩
    refine ⟨(id, report), ?_, (kept.reporters id report found).1⟩
    rw [mem_filter, decide_eq_true_eq]
    exact ⟨(OrderedMap.mem_entries_iff _ id report).mpr found, has⟩

lemma Kept.onCreatureDisappear
  (kept : Kept none game) {player : Nat} (online : (game.players player).online = true) :
  Kept (some player) (game.onCreatureDisappear player) ∧
    (game.onCreatureDisappear player).players = game.players ∧
      ∀ id report, (game.onCreatureDisappear player).ruleViolations.find? id =
        some report → id ≠ player ∧ report.gamemaster ≠ some player := by
  have weaker : Kept (some player) game :=
    { kept with
      justified := by
        rintro ⟨report, cause⟩ mem
        have before := kept.justified _ mem
        cases cause with
        | cancelled player => exact before
        | closed player => exact before
        | left gamemaster =>
          refine ⟨before.1, before.2.1, Or.inl (before.2.2.resolve_right nofun)⟩ }
  have cancelled := weaker.cancelRuleViolation player
  have players : (game.cancelRuleViolation player).players = game.players :=
    eraseReport_players player _
  have next : (game.cancelRuleViolation player).next = game.next := eraseReport_next player _
  have gone : (game.cancelRuleViolation player).ruleViolations.find? player = none := by
    rw [Game.cancelRuleViolation, eraseReport_find?, if_pos rfl]
  have born := kept.born player online
  unfold Game.onCreatureDisappear
  generalize game.cancelRuleViolation player = after at cancelled players next gone
  dsimp only
  split_ifs with mayAnswer
  · refine ⟨?_, ?_, ?_⟩
    · refine cancelled.closeReports (next ▸ born) ?_
      intro reporter mem report found
      obtain ⟨other, same, has⟩ := (mem_closeReportList cancelled).mp mem
      rw [found] at same
      rw [some.inj same]
      exact has
    · rw [closeReports_players, players]
    · intro id report found
      rw [closeReports_find?] at found
      split_ifs at found with listed
      refine ⟨?_, ?_⟩
      · rintro rfl
        rw [gone] at found
        cases found
      · exact fun has => listed ((mem_closeReportList cancelled).mpr ⟨report, found, has⟩)
  · refine ⟨cancelled, players, ?_⟩
    intro id report found
    refine ⟨?_, ?_⟩
    · rintro rfl
      rw [gone] at found
      cases found
    · intro has
      cases isOpen : report.isOpen with
      | true =>
        rw [cancelled.unattended id report found isOpen] at has
        cases has
      | false =>
        obtain ⟨gamemaster, same, _, may⟩ := cancelled.attended id report found isOpen
        rw [has] at same
        rw [← some.inj same] at may
        exact mayAnswer may

lemma Kept.removeCreature (kept : Kept none game) (player : Nat) :
  Kept none (game.removeCreature player) := by
  unfold Game.removeCreature
  split_ifs with offline
  · exact kept
  · rw [Bool.not_eq_false] at offline
    obtain ⟨left_, players, free⟩ := kept.onCreatureDisappear offline
    generalize game.onCreatureDisappear player = after at left_ players free
    have self : update after.players player
        { after.players player with online := false } player =
          { after.players player with online := false } := update_self ..
    have other : ∀ p, p ≠ player → update after.players player
        { after.players player with online := false } p = after.players p :=
      fun p ne => update_of_ne ne ..
    have may : ∀ p, (update after.players player
        { after.players player with online := false } p).canAnswerRuleViolations =
          (after.players p).canAnswerRuleViolations := by
      intro p
      by_cases same : p = player
      · rw [same, self]
      · rw [other p same]
    have away : ∀ p, (after.players p).online = false →
        (update after.players player
          { after.players player with online := false } p).online = false := by
      intro p offline
      by_cases same : p = player
      · rw [same, self]
      · rw [other p same]
        exact offline
    refine { left_ with
      reporters := ?_
      attended := ?_
      justified := ?_
      listed := ?_
      nodup := left_.nodup.erase player
      born := ?_ }
    · intro id report found
      obtain ⟨same, online⟩ := left_.reporters id report found
      dsimp only
      rw [other id (free id report found).1]
      exact ⟨same, online⟩
    · intro id report found closed
      obtain ⟨gamemaster, has, online, mayAnswer⟩ := left_.attended id report found closed
      have ne : gamemaster ≠ player := by
        rintro rfl
        exact (free id report found).2 has
      refine ⟨gamemaster, has, ?_⟩
      dsimp only
      rw [other gamemaster ne]
      exact ⟨online, mayAnswer⟩
    · rintro ⟨report, cause⟩ mem
      have before := left_.justified _ mem
      cases cause with
      | cancelled p => exact before
      | closed p => exact ⟨before.1, (may p).trans before.2⟩
      | left gamemaster =>
        refine ⟨before.1, before.2.1, Or.inl ?_⟩
        rcases before.2.2 with gone | leaves
        · exact away gamemaster gone
        · cases leaves
          dsimp only
          rw [self]
    · intro p
      dsimp only
      rw [left_.nodup.mem_erase_iff, left_.listed]
      by_cases same : p = player
      · rw [same, self]
        simp
      · rw [other p same]
        exact and_iff_right same
    · intro p online
      dsimp only at online
      by_cases same : p = player
      · rw [same, self] at online
        cases online
      · rw [other p same] at online
        exact left_.born p online

/-! ## Runs -/

lemma Kept.step (kept : Kept none game) {operation : Operation}
  (permitted : game.Permitted operation) : Kept none (game.step operation) := by
  cases operation with
  | placeCreature name canAnswer => exact kept.placeCreature name canAnswer
  | playerReportRuleViolation player text time =>
    exact kept.playerReportRuleViolation permitted text time
  | playerContinueReport player => exact kept
  | playerProcessRuleViolation player name =>
    exact kept.playerProcessRuleViolation player name
  | playerCloseRuleViolation player name =>
    unfold Game.step Game.playerCloseRuleViolation
    dsimp only
    split_ifs with offline
    · exact kept
    · cases found : game.getPlayerByName name with
      | none => exact kept
      | some reporter =>
        rw [Bool.not_eq_false] at offline
        refine kept.eraseReport ?_
        intro report still
        rcases permitted with away | may | unreported
        · rw [offline] at away
          cases away
        · exact ⟨kept.born player offline, may⟩
        · rw [unreported reporter found] at still
          cases still
  | playerCancelRuleViolation player =>
    unfold Game.step Game.playerCancelRuleViolation
    dsimp only
    split_ifs
    · exact kept
    · exact kept.cancelRuleViolation player
  | removeCreature player => exact kept.removeCreature player

lemma initial_kept (ALLOW_CLONES : Bool) : Kept none (initial ALLOW_CLONES) where
  reporters := nofun
  unattended := nofun
  attended := nofun
  once := nodup_nil
  justified := nofun
  numbered := nofun
  distinct := nofun
  untaken := nofun
  taken := nofun
  listed _ := ⟨nofun, nofun⟩
  nodup := nodup_nil
  born := nofun

lemma Kept.promised (kept : Kept none game) : game.Attended where
  __ := kept
  justified := by
    rintro ⟨report, cause⟩ mem
    have before := kept.justified _ mem
    cases cause with
    | cancelled player => exact before
    | closed player => exact before.2
    | left gamemaster => exact ⟨before.2.1, before.2.2.resolve_right nofun⟩

end Steps

/-- In every run in which only players with the flag close reports, all is in order. -/
theorem attended_of_permitted {ALLOW_CLONES : Bool} {game : Game}
  (run :
    Reaches (fun game operation next => next = Game.step game operation) Permitted
      (initial ALLOW_CLONES) game) : game.Attended := by
  have kept : Kept none game :=
    run.invariant (initial_kept ALLOW_CLONES) fun state operation next kept permitted taken =>
      taken ▸ kept.step permitted
  exact kept.promised

instance (game : Game) (operation : Operation) : Decidable (game.Permitted operation) :=
  match operation with
  | .playerReportRuleViolation player _ _ =>
    inferInstanceAs (Decidable ((game.players player).online = true))
  | .playerCloseRuleViolation player name =>
    match found : game.getPlayerByName name with
    | none => isTrue (Or.inr (Or.inr fun reporter same => by
        rw [found] at same
        cases same))
    | some reporter =>
      decidable_of_iff
        ((game.players player).online = false ∨
          (game.players player).canAnswerRuleViolations = true ∨
            game.ruleViolations.find? reporter = none)
        (or_congr_right (or_congr_right
          ⟨fun none_ other same => by
              rw [found] at same
              rw [← some.inj same]
              exact none_,
            fun all => all reporter found⟩))
  | .placeCreature _ _ | .playerContinueReport _ | .playerProcessRuleViolation _ _
  | .playerCancelRuleViolation _ | .removeCreature _ => isTrue trivial

/-- A report is taken and closed by a gamemaster, another one goes with it. -/
def answered : List Operation :=
  [.placeCreature ['A'] false, .placeCreature ['G'] true,
    .playerReportRuleViolation 0 "help" 1, .playerProcessRuleViolation 1 ['a'],
    .playerCloseRuleViolation 1 ['A'], .playerReportRuleViolation 0 "again" 2,
    .playerProcessRuleViolation 1 ['A'], .removeCreature 1]

theorem attended_answered : (answered.foldl Game.step (initial false)).Attended := by
  have allowed : Allowed Game.step Permitted (initial false) answered := by
    decide +kernel
  exact attended_of_permitted (Reaches.refl.of_allowed answered allowed)

/-- A player without the flag closes the report of another one. -/
def closedByAnother : List Operation :=
  [.placeCreature ['A'] false, .placeCreature ['B'] false,
    .playerReportRuleViolation 0 "help" 1, .playerCloseRuleViolation 1 ['A']]

/-- `playerCloseRuleViolation` does not ask for the flag. -/
theorem closedByAnother_unjustified :
  ¬ ∀ ALLOW_CLONES game,
    Reaches (fun game operation next => next = Game.step game operation) Always
      (initial ALLOW_CLONES) game → game.Attended := by
  intro always
  have ends := always false _ (Reaches.of_list (initial false) closedByAnother)
  have removed : (closedByAnother.foldl Game.step (initial false)).removed =
      [(⟨0, 0, none, "help", 1, true⟩, .closed 1)] := by
    decide +kernel
  have justified := ends.justified (⟨0, 0, none, "help", 1, true⟩, .closed 1)
    (removed ▸ mem_singleton_self _)
  have mayNot : ((closedByAnother.foldl Game.step
      (initial false)).players 1).canAnswerRuleViolations = false := by
    decide +kernel
  have may : ((closedByAnother.foldl Game.step
      (initial false)).players 1).canAnswerRuleViolations = true := justified
  cases may

end Game

end OTServ.Talk.RuleViolations
