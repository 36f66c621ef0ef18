import OTServ.Talk.Channels

/-!
# Users of channels

What the operations of the chat do to the users of its channels.  Leaving,
excluding and deleting only take users and channels away; this is the relation
`Shrinks`, and it composes along the loop of `removeUserFromAllChannels`.
After that loop the player is a user of none of the channels which
`getChannelList` listed.
-/

namespace OTServ.Talk.Channels

open Library
open Option

def Chat.UserOf (chat : Chat) (ref : ChannelRef) (id : Nat) : Prop :=
  ∃ channel, chat.deref ref = some channel ∧ channel.users.contains id = true

/-- The number a channel carries, by the place where it is stored. -/
def ChannelRef.Numbers : ChannelRef → Nat → Prop
  | .guild _, number => number = channelGuild
  | .normal channelId, number => number = channelId ∧ channelId < 100
  | .priv channelId, number => number = channelId ∧ 100 ≤ channelId
  | .dummyPrivate, number => number = channelPrivate

/-- `getChannelList` would list the channel to the player. -/
def Chat.MayUse (chat : Chat) (player : Player) : ChannelRef → Prop
  | .guild guildId =>
    guildId = player.guildId ∧ player.guildId ≠ 0 ∧ player.guildName.length ≠ 0
  | .normal channelId =>
    ¬(channelId = channelRuleRep ∧ ¬player.canAnswerRuleViolations)
  | .priv channelId =>
    ∃ channel, chat.privateChannels.find? channelId = some channel ∧
      channel.isInvited player = true
  | .dummyPrivate => False

section Store

variable {chat : Chat} {ref : ChannelRef} {old channel : ChatChannel}

lemma Chat.deref_store_self (found : chat.deref ref = some old) :
  (chat.store ref channel).deref ref = some channel := by
  cases ref with
  | guild guildId | normal channelId => simp [Chat.store, Chat.deref]
  | priv channelId =>
    simp only [Chat.deref, map_eq_some_iff] at found
    obtain ⟨privateChannel, stored, -⟩ := found
    simp [Chat.store, Chat.deref, stored]
  | dummyPrivate => rfl

lemma Chat.deref_store_ne {other : ChannelRef} (ne : other ≠ ref) :
  (chat.store ref channel).deref other = chat.deref other := by
  cases ref with
  | guild guildId =>
    cases other with
    | guild otherId =>
      have apart : otherId ≠ guildId := fun same => ne (congrArg ChannelRef.guild same)
      exact OrderedMap.find?_insert_ne _ _ apart
    | normal _ => rfl
    | priv _ => rfl
    | dummyPrivate => rfl
  | normal channelId =>
    cases other with
    | normal otherId =>
      have apart : otherId ≠ channelId := fun same => ne (congrArg ChannelRef.normal same)
      exact OrderedMap.find?_insert_ne _ _ apart
    | guild _ => rfl
    | priv _ => rfl
    | dummyPrivate => rfl
  | priv channelId =>
    cases stored : chat.privateChannels.find? channelId with
    | none => simp [Chat.store, stored]
    | some privateChannel =>
      cases other with
      | priv otherId =>
        have apart : otherId ≠ channelId := fun same => ne (congrArg ChannelRef.priv same)
        simp [Chat.store, stored, Chat.deref, OrderedMap.find?_insert_ne _ _ apart]
      | guild _ => simp [Chat.store, stored, Chat.deref]
      | normal _ => simp [Chat.store, stored, Chat.deref]
      | dummyPrivate => simp [Chat.store, stored, Chat.deref]
  | dummyPrivate =>
    cases other with
    | dummyPrivate => exact (ne rfl).elim
    | guild _ => rfl
    | normal _ => rfl
    | priv _ => rfl

lemma Chat.find?_privateChannels_store {key : Nat} {left : PrivateChatChannel}
  (found : (chat.store ref channel).privateChannels.find? key = some left) :
  ∃ before, chat.privateChannels.find? key = some before ∧
    left.owner = before.owner ∧ left.invites = before.invites := by
  cases ref with
  | guild guildId | normal channelId | dummyPrivate => exact ⟨left, found, rfl, rfl⟩
  | priv channelId =>
    cases stored : chat.privateChannels.find? channelId with
    | none =>
      simp only [Chat.store, stored] at found
      exact ⟨left, found, rfl, rfl⟩
    | some privateChannel =>
      simp only [Chat.store, stored, OrderedMap.find?_insert] at found
      split_ifs at found with same
      · cases found
        exact ⟨privateChannel, same ▸ stored, rfl, rfl⟩
      · exact ⟨left, found, rfl, rfl⟩

lemma Chat.find?_store_of_find? {key : Nat} {before : PrivateChatChannel}
  (found : chat.privateChannels.find? key = some before) :
  ∃ left, (chat.store ref channel).privateChannels.find? key = some left ∧
    left.owner = before.owner ∧ left.invites = before.invites := by
  cases ref with
  | guild guildId | normal channelId | dummyPrivate => exact ⟨before, found, rfl, rfl⟩
  | priv channelId =>
    cases stored : chat.privateChannels.find? channelId with
    | none =>
      simp only [Chat.store, stored]
      exact ⟨before, found, rfl, rfl⟩
    | some privateChannel =>
      simp only [Chat.store, stored, OrderedMap.find?_insert]
      split_ifs with same
      · rw [same, stored] at found
        cases found
        exact ⟨_, rfl, rfl, rfl⟩
      · exact ⟨before, found, rfl, rfl⟩

end Store

lemma PrivateChatChannel.isInvited_congr {left right : PrivateChatChannel} (player : Player)
  (owners : left.owner = right.owner) (invites : left.invites = right.invites) :
  left.isInvited player = right.isInvited player := by
  simp [PrivateChatChannel.isInvited, owners, invites]

/-- Nothing is added: what is left was there, with at most its users, and invitations stand. -/
structure Chat.Shrinks (before after : Chat) : Prop where
  users :
    ∀ ref left, after.deref ref = some left →
      ∃ channel, before.deref ref = some channel ∧ left.id = channel.id ∧
        ∀ id, left.users.contains id = true → channel.users.contains id = true
  privates :
    ∀ key left, after.privateChannels.find? key = some left →
      ∃ channel, before.privateChannels.find? key = some channel ∧
        left.owner = channel.owner ∧ left.invites = channel.invites

namespace Chat.Shrinks

variable {before middle after : Chat}

lemma refl (chat : Chat) : Chat.Shrinks chat chat where
  users := fun _ left found => ⟨left, found, rfl, fun _ user => user⟩
  privates := fun _ left found => ⟨left, found, rfl, rfl⟩

lemma trans (first : Chat.Shrinks before middle) (second : Chat.Shrinks middle after) :
  Chat.Shrinks before after where
  users := by
    intro ref left found
    obtain ⟨channel, inMiddle, sameId, fewer⟩ := second.users ref left found
    obtain ⟨origin, inBefore, sameId', fewer'⟩ := first.users ref channel inMiddle
    exact ⟨origin, inBefore, sameId.trans sameId', fun id user => fewer' id (fewer id user)⟩
  privates := by
    intro key left found
    obtain ⟨channel, inMiddle, owners, invites⟩ := second.privates key left found
    obtain ⟨origin, inBefore, owners', invites'⟩ := first.privates key channel inMiddle
    exact ⟨origin, inBefore, owners.trans owners', invites.trans invites'⟩

lemma userOf (shrinks : Chat.Shrinks before after) {ref : ChannelRef} {id : Nat}
  (user : after.UserOf ref id) : before.UserOf ref id := by
  obtain ⟨left, found, contained⟩ := user
  obtain ⟨channel, inBefore, -, fewer⟩ := shrinks.users ref left found
  exact ⟨channel, inBefore, fewer id contained⟩

lemma store {chat : Chat} {ref : ChannelRef} {channel left : ChatChannel}
  (found : chat.deref ref = some channel) (sameId : left.id = channel.id)
  (fewer : ∀ id, left.users.contains id = true → channel.users.contains id = true) :
  Chat.Shrinks chat (chat.store ref left) where
  users := by
    intro other remaining there
    by_cases same : other = ref
    · rw [same, Chat.deref_store_self found] at there
      cases there
      exact ⟨channel, same ▸ found, sameId, fewer⟩
    · rw [Chat.deref_store_ne same] at there
      exact ⟨remaining, there, rfl, fun _ user => user⟩
  privates := fun _ _ there => Chat.find?_privateChannels_store there

lemma deleteChannel (chat : Chat) (player : Player) (channelId : Nat) :
  Chat.Shrinks chat (chat.deleteChannel player channelId).1 := by
  by_cases guild : channelId = channelGuild
  · simp only [Chat.deleteChannel, guild, if_true]
    constructor
    · intro ref left found
      cases ref with
      | guild guildId =>
        exact ⟨left, (OrderedMap.find?_of_erase found).2, rfl, fun _ user => user⟩
      | normal _ | priv _ | dummyPrivate => exact ⟨left, found, rfl, fun _ user => user⟩
    · exact fun _ left found => ⟨left, found, rfl, rfl⟩
  · cases stored : chat.privateChannels.find? channelId with
    | none =>
      simp only [Chat.deleteChannel, guild, if_false, stored]
      exact refl chat
    | some channel =>
      simp only [Chat.deleteChannel, guild, if_false, stored]
      constructor
      · intro ref left found
        cases ref with
        | priv key =>
          simp only [Chat.deref, map_eq_some_iff] at found
          obtain ⟨privateChannel, there, rfl⟩ := found
          have inBefore := (OrderedMap.find?_of_erase there).2
          exact ⟨privateChannel.toChatChannel,
            by simp [Chat.deref, inBefore], rfl, fun _ user => user⟩
        | guild _ => exact ⟨left, found, rfl, fun _ user => user⟩
        | normal _ => exact ⟨left, found, rfl, fun _ user => user⟩
        | dummyPrivate => exact ⟨left, found, rfl, fun _ user => user⟩
      · intro key left found
        exact ⟨left, (OrderedMap.find?_of_erase found).2, rfl, rfl⟩

end Chat.Shrinks

/-! ## Leaving -/

lemma ChatChannel.removeUser_getD (channel : ChatChannel) (player : Player) :
  ((channel.removeUser player).getD channel).id = channel.id ∧
    ∀ id,
      ((channel.removeUser player).getD channel).users.contains id = true ↔
        id ≠ player.id ∧ channel.users.contains id = true := by
  simp only [ChatChannel.removeUser]
  split_ifs with user
  · exact ⟨rfl, fun id => OrderedMap.contains_erase _ _ _⟩
  · refine ⟨rfl, fun id => ?_⟩
    constructor
    · intro contained
      refine ⟨?_, contained⟩
      intro same
      exact user (same ▸ contained)
    · exact fun contained => contained.2

lemma Chat.removeUserFromChannel_shrinks (chat : Chat) (player : Player) (channelId : Nat) :
  Chat.Shrinks chat (chat.removeUserFromChannel player channelId).1 := by
  cases got : chat.getChannel player channelId with
  | none =>
    simp only [Chat.removeUserFromChannel, got]
    exact .refl chat
  | some ref =>
    cases found : chat.deref ref with
    | none =>
      simp only [Chat.removeUserFromChannel, got, found, bind_none]
      exact .refl chat
    | some channel =>
      cases removed : channel.removeUser player with
      | none =>
        simp only [Chat.removeUserFromChannel, got, found, bind_some, removed]
        exact .refl chat
      | some remaining =>
        have effect := channel.removeUser_getD player
        simp only [removed, getD_some] at effect
        have stored : Chat.Shrinks chat (chat.store ref remaining) :=
          .store found effect.1 fun id user => ((effect.2 id).mp user).2
        simp only [Chat.removeUserFromChannel, got, found, bind_some, removed]
        split_ifs with owner
        · exact stored.trans (.deleteChannel _ _ _)
        · exact stored

lemma Chat.removeUserFromListed_spec (chat : Chat) (player : Player) (ref : ChannelRef) :
  Chat.Shrinks chat (chat.removeUserFromListed player ref).1 ∧
    ¬ (chat.removeUserFromListed player ref).1.UserOf ref player.id := by
  cases found : chat.deref ref with
  | none =>
    simp only [Chat.removeUserFromListed, found]
    refine ⟨.refl chat, ?_⟩
    rintro ⟨channel, there, -⟩
    rw [found] at there
    cases there
  | some channel =>
    have effect := channel.removeUser_getD player
    have stored : Chat.Shrinks chat (chat.store ref ((channel.removeUser player).getD channel)) :=
      .store found effect.1 fun id user => ((effect.2 id).mp user).2
    have gone :
        ¬ (chat.store ref ((channel.removeUser player).getD channel)).UserOf ref player.id := by
      rintro ⟨left, there, contained⟩
      rw [Chat.deref_store_self found] at there
      cases there
      exact ((effect.2 player.id).mp contained).1 rfl
    simp only [Chat.removeUserFromListed, found]
    split_ifs with owner
    · have deleted :=
        Chat.Shrinks.deleteChannel
          (chat.store ref ((channel.removeUser player).getD channel))
          player channel.id
      exact ⟨stored.trans deleted, fun user => gone (deleted.userOf user)⟩
    · exact ⟨stored, gone⟩

lemma Chat.removeUserFromListed_foldl (player : Player) (list : List ChannelRef)
    (start : Chat × List Delivery) :
    let finish :=
      list.foldl
        (fun done ref =>
          let left := done.1.removeUserFromListed player ref
          (left.1, done.2 ++ left.2))
        start
    Chat.Shrinks start.1 finish.1 ∧ ∀ ref ∈ list, ¬ finish.1.UserOf ref player.id := by
  induction list generalizing start with
  | nil => exact ⟨.refl _, fun ref mem => (List.not_mem_nil mem).elim⟩
  | cons first rest ih =>
    have turn := start.1.removeUserFromListed_spec player first
    obtain ⟨shrinks, gone⟩ :=
      ih
        ((start.1.removeUserFromListed player first).1,
          start.2 ++ (start.1.removeUserFromListed player first).2)
    refine ⟨turn.1.trans shrinks, ?_⟩
    intro ref mem
    rcases List.mem_cons.mp mem with rfl | later
    · exact fun user => turn.2 (shrinks.userOf user)
    · exact gone ref later

end OTServ.Talk.Channels
