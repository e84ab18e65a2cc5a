import MmorpgSimulator.Quests

set_option autoImplicit false

namespace MmorpgSimulator

-- Sessions whose stored name equals the fixed-width name of a request, in the
-- order of ForEach; sessions without a character have the empty name.
def sessionsNamed (s : ServerState) (name : Bytes) : List SessionId :=
  (s.sessions.toList.filter (fun entry => entry.2.player.name = name)).map Prod.fst

def PartyState.membersOf (party : PartyState) (partyId : UInt32) : List SessionId :=
  ((party.parties[partyId]?).map Party.members).getD []

def onChat (s : ServerState) (sid : SessionId) (chat : CsChat) : ServerState :=
  let reply : Message :=
    .chat { channel := chat.channel, senderName := strncpyS (s.player sid).name 19, message := strncpyS chat.message 127 }
  if chat.channel = 0 then s.broadcast reply
  else if chat.channel = 1 then
    let found := sessionsNamed s chat.targetName
    let s := found.foldl (fun s other => (s.send other reply).send sid reply) s
    if found.isEmpty then s.send sid (.error { errorCode := 2, message := text "Player not found" }) else s
  else if chat.channel = 2 then
    match s.party.playerParty[sid]? with
    | some partyId =>
        let s := s.touchParty partyId
        (s.party.membersOf partyId).foldl (fun s mid => s.send mid reply) s
    | none => s.send sid (.error { errorCode := 2, message := text "Not in a party" })
  else s

def partyMemberOf (s : ServerState) (mid : SessionId) : ScPartyMember :=
  match s.sessions[mid]? with
  | none => {}
  | some session =>
      { charUid := session.player.charUid, name := strncpyS session.player.name 19, hp := session.player.hp,
        maxHp := session.player.maxHp, posX := session.player.posX, posY := session.player.posY }

def partyUpdateOf (s : ServerState) (members : List SessionId) : ScPartyUpdate :=
  { memberCount := UInt8.ofNat members.length, members := (members.take maxParty).map (partyMemberOf s) }

def sendPartyUpdate (s : ServerState) (partyId : UInt32) : ServerState :=
  match s.party.parties[partyId]? with
  | none => s
  | some party => party.members.foldl (fun s' mid => s'.send mid (.partyUpdate (partyUpdateOf s party.members))) s

-- The maps after RemoveFromParty: a party left with at most one member is disbanded.
def PartyState.without (party : PartyState) (sid : SessionId) : PartyState :=
  match party.playerParty[sid]? with
  | none => party
  | some partyId =>
      let playerParty := party.playerParty.erase sid
      match party.parties[partyId]? with
      | none => { party with playerParty }
      | some found =>
          let members := found.members.filter (fun mid => mid ≠ sid)
          if members.length ≤ 1 then
            { party with playerParty := members.foldl (fun map mid => map.erase mid) playerParty,
                         parties := party.parties.erase partyId }
          else { party with playerParty, parties := party.parties.insert partyId { found with members } }

def removeFromParty (s : ServerState) (sid : SessionId) : ServerState :=
  match s.party.playerParty[sid]? with
  | none => s
  | some partyId =>
      let before := s.party
      let s := s.setParty (before.without sid)
      match before.parties[partyId]? with
      | none => s
      | some found =>
          let members := found.members.filter (fun mid => mid ≠ sid)
          let charUid := ((s.sessions[sid]?).map (fun session => session.player.charUid)).getD 0
          let s := members.foldl (fun s mid => s.send mid (.partyLeave { charUid })) s
          if members.length ≤ 1 then
            match members.head? with
            | none => s
            | some last => s.send last (.partyLeave { charUid := 0 })
          else sendPartyUpdate s partyId

def partyError (s : ServerState) (sid : SessionId) (reason : String) : ServerState :=
  s.send sid (.error { errorCode := 4, message := text reason })

def onPartyInvite (s : ServerState) (sid : SessionId) (req : CsPartyInvite) : ServerState :=
  let s := (s.party.playerParty[sid]?).elim s s.touchParty
  let full := ((s.party.playerParty[sid]?).bind (fun partyId => s.party.parties[partyId]?)).any
    (fun party => maxParty ≤ party.members.length)
  if full then partyError s sid "Party is full"
  else
    match (sessionsNamed s req.targetName).getLast? with
    | none => partyError s sid "Player not found"
    | some target =>
        if target = sid then partyError s sid "Player not found"
        else if target ∈ s.party.playerParty then partyError s sid "Already in a party"
        else
          let s := s.setParty { s.party with pendingInvites := s.party.pendingInvites.insert target sid }
          s.send target (.partyInvite { inviterName := strncpyS (s.player sid).name 19 })

-- The inviter's party, created on the spot when the inviter has none.
def PartyState.partyOf (party : PartyState) (inviterId : SessionId) : PartyState × UInt32 :=
  match party.playerParty[inviterId]? with
  | some partyId => (party, partyId)
  | none =>
      let partyId := party.nextPartyId
      let created := (party.parties[partyId]?).getD {}
      ({ party with
          nextPartyId := partyId + 1
          parties := party.parties.insert partyId { id := partyId, members := created.members ++ [inviterId] }
          playerParty := party.playerParty.insert inviterId partyId }, partyId)

def PartyState.join (party : PartyState) (partyId : UInt32) (sid : SessionId) : PartyState :=
  let found := (party.parties[partyId]?).getD {}
  { party with
    parties := party.parties.insert partyId { found with members := found.members ++ [sid] }
    playerParty := party.playerParty.insert sid partyId }

def PartyState.withoutInvite (party : PartyState) (sid : SessionId) : PartyState :=
  { party with pendingInvites := party.pendingInvites.erase sid }

def joinParty (s : ServerState) (sid : SessionId) (partyId : UInt32) : ServerState :=
  if maxParty ≤ (s.party.membersOf partyId).length then s
  else sendPartyUpdate (s.setParty (s.party.join partyId sid)) partyId

def onPartyAccept (s : ServerState) (sid : SessionId) (req : CsPartyAccept) : ServerState :=
  match s.party.pendingInvites[sid]? with
  | none => s
  | some inviterId =>
      let s := s.setParty (s.party.withoutInvite sid)
      if req.accept = 0 then s
      else if inviterId ∉ s.sessions then s
      else
        let entered := s.party.partyOf inviterId
        joinParty ((s.setParty entered.1).touchParty entered.2) sid entered.2

def onPartyLeave (s : ServerState) (sid : SessionId) : ServerState := removeFromParty s sid

end MmorpgSimulator
