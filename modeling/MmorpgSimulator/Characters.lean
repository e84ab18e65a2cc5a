import MmorpgSimulator.Quests

set_option autoImplicit false

namespace MmorpgSimulator

def digitsValue : Nat → Bytes → Nat
  | value, [] => value
  | value, byte :: rest =>
      if 48 ≤ byte ∧ byte ≤ 57 then digitsValue (10 * value + (byte.toNat - 48)) rest else value

-- std::atoll: leading blanks, an optional sign, the longest run of digits.
def atoll (source : Bytes) : Int :=
  match source.dropWhile (fun byte => byte = 32 ∨ (9 ≤ byte ∧ byte ≤ 13)) with
  | 45 :: digits => max (-(digitsValue 0 digits : Int)) (-(2 ^ 63))
  | 43 :: digits => min (digitsValue 0 digits : Int) (2 ^ 63 - 1)
  | digits => min (digitsValue 0 digits : Int) (2 ^ 63 - 1)

def channelIdOf (data : GameData) (accountId : Bytes) : Nat :=
  if atoll accountId ≤ 0 then data.stdHash accountId % 900000000 + 100000000 else (atoll accountId).toNat

-- charName[21] with its terminator: SQLFetch reports a longer name as
-- SQL_SUCCESS_WITH_INFO, which the fetches take for the end of the rows.
def fetchable (charName : Bytes) : Bool := charName.length ≤ 20

def charListEntryOf (row : CharacterRow) : ScCharListEntry :=
  ⟨row.charUid, strncpyS row.charName 20, row.charType, row.level.toUInt32.toUInt16⟩

def sendCharList (s : ServerState) (sid : SessionId) : ServerState :=
  let call := s.executeProc (fun db => some (db, db.spCharacterList (s.player sid).accountUid))
  let rows := (call.2.row.getD []).takeWhile (fun row => fetchable row.charName)
  let s := call.1.fail (rows.any (fun row => !strncpyFits 20 row.charName 20)) .invalidParameter
  s.send sid (.charList { chars := rows.map charListEntryOf })

def onLogin (data : GameData) (s : ServerState) (sid : SessionId) (login : CsLogin) : ServerState :=
  let channelId := channelIdOf data login.accountId
  let call := s.executeProc (fun db => some (db.spAccountLogin 0 channelId))
  let accountUid := (call.2.row.map Prod.fst).getD 0
  let known := call.2.success ∧ 0 < accountUid
  let accountUid := if known then accountUid else channelId
  let s := call.1.setPlayer sid { call.1.player sid with accountUid }
  let s := s.send sid (.loginResult
    { success := 1, accountUid, message := text (if known then "Login successful" else "Login (no DB)") })
  sendCharList s sid

def onCharList (s : ServerState) (sid : SessionId) : ServerState := sendCharList s sid

def onCharCreate (data : GameData) (s : ServerState) (sid : SessionId) (req : CsCharCreate) : ServerState :=
  let call := s.executeProc (fun db =>
    (data.characterCreateArguments req.name req.charType).bind (fun arguments =>
      db.spCharacterCreate (s.player sid).accountUid arguments.1 arguments.2))
  let charUid := call.2.row.getD 0
  if call.2.success ∧ 0 < charUid then
    let s := call.1.send sid (.charCreateResult { success := 1, charUid, message := text "Character created" })
    sendCharList s sid
  else call.1.send sid (.charCreateResult { success := 0, charUid, message := text "Create failed" })

def sendAttendanceInfo (s : ServerState) (sid : SessionId) : ServerState :=
  let call := s.executeProc (fun db => some (db, db.spAttendanceInfo (s.player sid).charUid))
  let info := call.2.row.getD (0, 0)
  call.1.send sid (.attendanceInfo { todayAttended := info.1, rewardGold := info.2 })

def onAttendanceCheck (s : ServerState) (sid : SessionId) : ServerState :=
  let call := s.executeProc (fun db => some (db.spAttendanceCheck (s.player sid).charUid))
  let result := call.2.row.getD (0, 0)
  call.1.send sid (.attendanceResult { success := result.1, rewardGold := result.2 })

-- What OnCharSelect overwrites; hp, maxHp, maxExp, atk and def are not among it.
def selectedPlayer (player : PlayerData) (charUid : CharUid) (row : Int32 × Int64 × Int64) (drawX drawY : Nat) : PlayerData :=
  { player with
    charUid
    loggedIn := true
    level := row.1.toUInt32.toUInt16
    exp := row.2.1.toUInt64
    gold := row.2.2.toUInt64
    posX := 5 + Int16.ofNat (drawX % 10)
    posY := 5 + Int16.ofNat (drawY % 10) }

def fetchName (s : ServerState) (sid : SessionId) (charUid : CharUid) : ServerState :=
  let call := s.executeProc (fun db => some (db, (db.character charUid).map CharacterRow.charName))
  let player := call.1.player sid
  call.1.setPlayer sid
    { player with name := ((call.2.row.join.filter fetchable).map (fun name => strncpyS name 19)).getD player.name }

def enterGame (data : GameData) (s : ServerState) (sid : SessionId) : ServerState :=
  let s := sendCharInfo s sid
  let s := sendAllNpcs s sid
  let s := sendOtherPlayers s sid
  let s := sendAttendanceInfo s sid
  let s := loadInventory data s sid
  loadQuestProgress s sid

def onCharSelect (data : GameData) (s : ServerState) (sid : SessionId) (req : CsCharSelect) : ServerState :=
  let call := s.executeProc (fun db => db.spCharacterLogin (s.player sid).accountUid req.charUid)
  match call.2.row with
  | none => call.1.send sid (.error { errorCode := 1, message := text "Character not found" })
  | some row =>
      let drawX := call.1.rand
      let s := call.1.rolled
      let drawY := s.rand
      let s := s.rolled
      let s := s.setPlayer sid (selectedPlayer (s.player sid) req.charUid row drawX drawY)
      enterGame data (fetchName s sid req.charUid) sid

def onHeartbeat (s : ServerState) (sid : SessionId) : ServerState := s.send sid .heartbeat

section Effects

variable (data : GameData) (s : ServerState) (sid : SessionId)

theorem char_list_state : ∃ sent dbPlan db fault, sendCharList s sid = { s with sent, dbPlan, db, fault } := ⟨_, _, _, _, rfl⟩

theorem on_char_create_state (req : CsCharCreate) :
    ∃ sent dbPlan db fault, onCharCreate data s sid req = { s with sent, dbPlan, db, fault } := by
  rw [onCharCreate]
  simp only
  split
  · exact char_list_state _ sid
  · exact ⟨_, _, _, _, rfl⟩

theorem greeting_state : ∃ sent, sendAttendanceInfo (sendOtherPlayers (sendAllNpcs (sendCharInfo s sid) sid) sid) sid =
    { s with
      sent, db := s.procDb (fun db => some (db, db.spAttendanceInfo (s.player sid).charUid)), dbPlan := s.dbPlan.tail } := by
  have own (t : ServerState) : ∃ sent, sendCharInfo t sid = { t with sent } := ⟨_, rfl⟩
  have npcs (t : ServerState) : ∃ sent, sendAllNpcs t sid = { t with sent } := ⟨_, rfl⟩
  have others (t : ServerState) : ∃ sent, sendOtherPlayers t sid = { t with sent } := ⟨_, rfl⟩
  have attendance (t : ServerState) : ∃ sent, sendAttendanceInfo t sid = { t with
      sent, db := t.procDb (fun db => some (db, db.spAttendanceInfo (t.player sid).charUid)), dbPlan := t.dbPlan.tail } := ⟨_, rfl⟩
  obtain ⟨first, told⟩ := own s
  obtain ⟨second, shown⟩ := npcs { s with sent := first }
  obtain ⟨third, met⟩ := others { s with sent := second }
  obtain ⟨last, counted⟩ := attendance { s with sent := third }
  use last
  rw [told, shown, met, counted]
  rfl

theorem enter_game_loads : enterGame data s sid = loadQuestProgress (loadInventory data
    (sendAttendanceInfo (sendOtherPlayers (sendAllNpcs (sendCharInfo s sid) sid) sid) sid) sid) sid := rfl

end Effects

end MmorpgSimulator
