import Hostpin.Foundation.Bytes
import Hostpin.Foundation.Runs
import Hostpin.Store.Metrics

/-!
# Notification channels

The administrator creates, changes and deletes the channels that notifications are sent on.  The
configuration of a channel is a JSON object that is stored encrypted.  A request that changes a
channel may leave the configuration out, or give a part of it: the part is merged into the stored
configuration, and a secret that is left blank keeps its value.

A configuration is validated for the type of its channel before it is stored.  A request without a
configuration stores a type and validates nothing, so the stored configuration may be of no use for
the new type (`channel_invalid`).  `channels_valid_iff` says when this happens: the channels stay
valid exactly as long as each request without a configuration gives its channel a type that the
stored configuration is valid for, and a request that keeps the type does
(`keepsValid_of_sameType`).
-/

namespace Hostpin

open Runs Text

/-! ## Configurations -/

/-- What a type switch tells of a JSON value. -/
inductive Dynamic (α : Type) where
  | null
  | text (value : String)
  | array (items : List α)
  | other

/-- Whether there is no value. -/
def Dynamic.isNull {α : Type} : Dynamic α → Bool
  | .null => true
  | _ => false

/-- A configuration: some keys and their values. -/
abbrev ChannelConfig (α : Type) := KeyedTable (Prod.fst : String × α → String)

/-- The encryption of secrets: a text under a nonce, in base64, and back. -/
structure SecretBox where
  protect : Bytes → String → String
  recover : String → Option String

/-- Functions of packages that a request uses.  The JSON values are those of a decoder. -/
structure ChannelServices (α : Type) where
  typeSwitch : α → Dynamic α
  parseInt : String → Option ℤ
  toLower : String → String
  parseURL : String → Option ParsedURL
  parseAddress : String → Except String Unit
  marshal : ChannelConfig α → String
  /-- What a text leaves in an empty map, and whether there was no error. -/
  unmarshal : String → ChannelConfig α × Bool
  secrets : SecretBox

/-- A secret with the version of its encryption. -/
def SecretBox.seal (box : SecretBox) (nonce : Bytes) (plaintext : String) : String :=
  "v1:" ++ box.protect nonce plaintext

/-- The text of a secret. -/
def SecretBox.open (box : SecretBox) (encoded : String) : Option String :=
  match encoded.toList with
  | 'v' :: '1' :: ':' :: raw => box.recover (String.ofList raw)
  | _ => none

variable {α : Type} (P : ChannelServices α)

/-- The value of a key. -/
def configValue (config : ChannelConfig α) (key : String) : Dynamic α :=
  match config.lookup key with
  | some (_, value) => P.typeSwitch value
  | none => .null

/-- The text of a key, without the white space around it. -/
def configText (config : ChannelConfig α) (key : String) : String :=
  match configValue P config key with
  | .text value => trimSpace value
  | _ => ""

/-! ## Validation -/

/-- Check the address of a mailbox. -/
def validateMailbox (raw : String) : Except String Unit :=
  if raw.toList.any fun c => c == '\r' || c == '\n' then .error "mailbox contains a line break"
  else P.parseAddress (trimSpace raw)

/-- The addresses of a text, which are separated by commas or semicolons. -/
def splitMailboxes (typed : String) : List String :=
  ((typed.toList.splitOnP fun c => c == ',' || c == ';').filter (· ≠ [])).map String.ofList

/-- Check the addresses of a list of mailboxes. -/
def validateMailboxList (raw : Dynamic α) : Except String Unit := do
  let values ← match raw with
    | .text typed => .ok (splitMailboxes typed)
    | .array items => items.mapM fun item =>
      match P.typeSwitch item with
      | .text value => .ok value
      | _ => .error "mailbox must be a string"
    | _ => .error "mailbox list is malformed"
  if values.isEmpty then .error "mailbox list is empty" else values.forM (validateMailbox P)

/-- Check a configuration for a type of channel. -/
def validateChannelConfig (channelType : String) (config : ChannelConfig α) :
    Except String Unit :=
  let text := configText P config
  if channelType = "webhook" then
    match P.parseURL (text "url") with
    | none => .error "webhook URL is required and must use HTTP or HTTPS"
    | some target =>
      if target.host = "" ∨ target.hasUser ∨ (target.scheme ≠ "http" ∧ target.scheme ≠ "https") then
        .error "webhook URL is required and must use HTTP or HTTPS"
      else .ok ()
  else if channelType = "telegram" then
    if text "bot_token" = "" ∨ text "chat_id" = "" then
      .error "Telegram bot token and chat ID are required"
    else .ok ()
  else if channelType = "bark" then
    if text "device_key" = "" then .error "Bark device key is required" else .ok ()
  else if channelType = "smtp" then
    let recipients := configValue P config "to"
    if text "host" = "" ∨ (text "host").toList.any ("\r\n\t ".toList.contains ·) ∨
        text "from" = "" ∨ recipients.isNull then
      .error "SMTP host, from, and recipients are required"
    else
      match validateMailbox P (text "from") with
      | .error _ => .error "SMTP from address is malformed"
      | .ok () =>
        match validateMailboxList P recipients with
        | .error _ => .error "one or more SMTP recipients are malformed"
        | .ok () => .ok ()
  else .ok ()

/-- A channel as a request gives it. -/
structure ChannelInput (α : Type) where
  id : ℤ := 0
  name : String
  type : String
  config : ChannelConfig α := .empty
  enabled : Bool

/-- Check what a request says of a channel apart from the configuration. -/
def validateNotificationChannel (channel : ChannelInput α) : Except String Unit :=
  if channel.name = "" ∨ channel.name.utf8ByteSize > 128 ∨
      channel.name.toList.any (fun c => c == '\r' || c == '\n') then
    .error "channel name is required"
  else if channel.type ∉ ["smtp", "telegram", "bark", "webhook"] then
    .error "channel type must be smtp, telegram, bark, or webhook"
  else if channel.config.rows.length > 64 then .error "channel configuration is too large"
  else .ok ()

/-! ## The table -/

/-- A row of the table of channels. -/
structure StoredChannel where
  id : ℤ
  name : String
  type : String
  configEnc : String
  enabled : Bool

/-- The table of channels with the sequence that its ids come from. -/
structure ChannelStore where
  channels : KeyedTable StoredChannel.id := .empty
  sequence : ℤ := 0

/-- Why a call of the store has no result. -/
inductive ChannelStoreError where
  | notFound
  | failure

/-- A row after an update; without a configuration the stored one stays. -/
def StoredChannel.update (row : StoredChannel) (channel : ChannelInput α)
    (encryptedConfig : String) : StoredChannel :=
  if row.id ≠ channel.id then row
  else
    { row with
      name := channel.name, type := channel.type, enabled := channel.enabled
      configEnc := if encryptedConfig = "" then row.configEnc else encryptedConfig }

lemma StoredChannel.id_update (channel : ChannelInput α) (encryptedConfig : String)
    (row : StoredChannel) : (row.update channel encryptedConfig).id = row.id := by
  unfold update
  split_ifs <;> rfl

/-- Insert a channel, or update the row with its id. -/
def ChannelStore.saveNotificationChannel (s : ChannelStore) (channel : ChannelInput α)
    (encryptedConfig : String) (works : Bool) : Except ChannelStoreError (ChannelStore × ℤ) :=
  if !works then .error .failure
  else if channel.id = 0 then
    let id := s.sequence + 1
    let row : StoredChannel :=
      ⟨id, channel.name, channel.type, encryptedConfig, channel.enabled⟩
    match s.channels.insertNew row with
    | none => .error .failure
    | some channels => .ok (⟨channels, id⟩, id)
  else if channel.id ∉ s.channels.rows.map StoredChannel.id then .error .notFound
  else
    .ok ({ s with
      channels := s.channels.updateAll (·.update channel encryptedConfig)
        (StoredChannel.id_update channel encryptedConfig) }, channel.id)

/-- Delete a channel. -/
def ChannelStore.deleteNotificationChannel (s : ChannelStore) (id : ℤ) (works : Bool) :
    Except ChannelStoreError ChannelStore :=
  if !works then .error .failure
  else if id ∉ s.channels.rows.map StoredChannel.id then .error .notFound
  else .ok { s with channels := s.channels.deleteWhere (·.id == id) }

/-! ## Requests -/

/-- A request to save a channel: the id of its path, if there is one, and the channel. -/
structure SaveChannel (α : Type) where
  pathID : Option String := none
  body : ChannelInput α

/-- What the calls of a request return: whether the list of the channels can be read and the channel
can be stored, and the nonce, unless none could be drawn. -/
structure SaveChannelCalls where
  listNotificationChannels : Bool := true
  nonce : Option Bytes := some []
  saveNotificationChannel : Bool := true

/-- An answer that refuses a request. -/
structure ChannelRefusal where
  status : ℕ
  code : String
  message : String

/-- What is answered when a channel was saved. -/
structure SavedChannel where
  status : ℕ
  id : ℤ
  name : String
  type : String
  enabled : Bool

/-- The positive integer that a text says. -/
def parsePositiveID (raw : String) : Option ℤ := (P.parseInt raw).filter (0 < ·)

/-- The keys whose values keep when they are sent blank. -/
def secretKeys : List String := ["password", "bot_token", "device_key", "secret"]

/-- Put the keys of a request into the stored configuration, but for blank secrets.  What cannot be
read of the stored configuration is left out. -/
def ChannelStore.mergeChannelConfig (s : ChannelStore) (listed : Bool) (id : ℤ)
    (incoming : ChannelConfig α) : ChannelConfig α :=
  let merged : ChannelConfig α :=
    match (if listed then s.channels.lookup id else none) with
    | none => .empty
    | some channel =>
      match P.secrets.open channel.configEnc with
      | none => .empty
      | some plaintext => (P.unmarshal plaintext).1
  incoming.rows.foldl (fun merged entry =>
    match P.typeSwitch entry.2 with
    | .text "" => if entry.1 ∈ secretKeys then merged else merged.upsert entry
    | _ => merged.upsert entry) merged

/-- A configuration without the marks that a redacted one has. -/
def withoutMarks (config : ChannelConfig α) : ChannelConfig α :=
  config.deleteWhere fun entry =>
    "_configured".toList.isSuffixOf entry.1.toList || entry.1 == "configured"

/-- The channel that a request is about, with its name and its type brought into form. -/
def SaveChannel.channel (request : SaveChannel α) : Option (ChannelInput α) :=
  let channel := { request.body with
    name := trimSpace request.body.name, type := P.toLower (trimSpace request.body.type) }
  match request.pathID with
  | none => some channel
  | some raw => (parsePositiveID P raw).map fun id => { channel with id }

/-- The configuration that a request gives a channel. -/
def ChannelStore.newConfig (s : ChannelStore) (listed : Bool) (channel : ChannelInput α) :
    ChannelConfig α :=
  withoutMarks
    (if 0 < channel.id then s.mergeChannelConfig P listed channel.id channel.config
      else channel.config)

/-- The encrypted configuration of a request; it is empty when the request has none. -/
def ChannelStore.encryptConfig (s : ChannelStore) (calls : SaveChannelCalls)
    (channel : ChannelInput α) : Except ChannelRefusal String :=
  if channel.config.rows.isEmpty then .ok ""
  else
    let config := s.newConfig P calls.listNotificationChannels channel
    match validateChannelConfig P channel.type config with
    | .error message => .error ⟨400, "invalid_notification_config", message⟩
    | .ok () =>
      match calls.nonce with
      | none => .error ⟨500, "encryption_error", "could not protect notification credentials"⟩
      | some nonce => .ok (P.secrets.seal nonce (P.marshal config))

/-- Create or change a channel. -/
def ChannelStore.handleAdminSaveNotificationChannel (s : ChannelStore) (request : SaveChannel α)
    (calls : SaveChannelCalls) : ChannelStore × Except ChannelRefusal SavedChannel :=
  match request.channel P with
  | none => (s, .error ⟨400, "invalid_id", "invalid notification channel id"⟩)
  | some channel =>
    match validateNotificationChannel channel with
    | .error message => (s, .error ⟨400, "invalid_notification_channel", message⟩)
    | .ok () =>
      match s.encryptConfig P calls channel with
      | .error refusal => (s, .error refusal)
      | .ok encrypted =>
        if channel.id = 0 ∧ encrypted = "" then
          (s, .error ⟨400, "config_required", "channel configuration is required"⟩)
        else
          match s.saveNotificationChannel channel encrypted calls.saveNotificationChannel with
          | .error .notFound =>
            (s, .error ⟨404, "notification_not_found", "notification channel was not found"⟩)
          | .error .failure =>
            (s, .error ⟨500, "store_error", "could not save notification channel"⟩)
          | .ok (saved, id) =>
            (saved, .ok
              { status := if channel.id = 0 then 201 else 200, id, name := channel.name
                type := channel.type, enabled := channel.enabled })

/-- Delete a channel. -/
def ChannelStore.handleAdminDeleteNotificationChannel (s : ChannelStore) (rawID : String)
    (works : Bool) : ChannelStore × Except ChannelRefusal Unit :=
  match parsePositiveID P rawID with
  | none => (s, .error ⟨400, "invalid_id", "invalid notification channel id"⟩)
  | some id =>
    match s.deleteNotificationChannel id works with
    | .error .notFound =>
      (s, .error ⟨404, "notification_not_found", "notification channel was not found"⟩)
    | .error .failure => (s, .error ⟨500, "store_error", "could not delete notification channel"⟩)
    | .ok store => (store, .ok ())

/-- A request of the administrator. -/
inductive ChannelEvent (α : Type) where
  | save (request : SaveChannel α) (calls : SaveChannelCalls)
  | delete (rawID : String) (works : Bool)

/-- The table after a request. -/
def ChannelStore.step (s : ChannelStore) : ChannelEvent α → ChannelStore
  | .save request calls => (s.handleAdminSaveNotificationChannel P request calls).1
  | .delete rawID works => (s.handleAdminDeleteNotificationChannel P rawID works).1

/-! ## Channels that are valid -/

/-- The configuration that a text of the table hides. -/
def decryptedConfig (configEnc : String) : Option (ChannelConfig α) :=
  match P.secrets.open configEnc with
  | none => none
  | some plaintext =>
    match P.unmarshal plaintext with
    | (config, ok) => if ok then some config else none

/-- A stored configuration is valid for a type. -/
def Fits (channelType configEnc : String) : Prop :=
  ∃ config, decryptedConfig P configEnc = some config ∧
    validateChannelConfig P channelType config = .ok ()

instance (channelType configEnc : String) : Decidable (Fits P channelType configEnc) :=
  decidable_of_iff
    ((decryptedConfig P configEnc).any fun config =>
      (validateChannelConfig P channelType config).isOk)
    (by
      rw [Option.any_eq_true]
      refine exists_congr fun config => and_congr_right fun _ => ?_
      cases validateChannelConfig P channelType config <;> simp [Except.isOk, Except.toBool])

/-- Every stored channel has a configuration that is valid for its type. -/
def ChannelStore.Valid (s : ChannelStore) : Prop :=
  ∀ row ∈ s.channels, Fits P row.type row.configEnc

instance (s : ChannelStore) : Decidable (s.Valid P) :=
  inferInstanceAs (Decidable (∀ row ∈ s.channels.rows, Fits P row.type row.configEnc))

/-- A request without a configuration that changes a channel gives it a type that the stored
configuration is valid for. -/
def ChannelStore.KeepsValid (s : ChannelStore) : ChannelEvent α → Prop
  | .save request calls =>
    ∀ channel, request.channel P = some channel →
      validateNotificationChannel channel = .ok () → channel.config.rows = [] →
      calls.saveNotificationChannel = true → channel.id ≠ 0 →
      ∀ row ∈ s.channels, row.id = channel.id → Fits P channel.type row.configEnc
  | .delete _ _ => True

/-- What the packages do: a configuration is read back from its JSON text, key by key, and a secret
from its encryption. -/
structure ChannelServices.Lawful : Prop where
  unmarshal_marshal : ∀ config, (P.unmarshal (P.marshal config)).2 = true ∧
    ∀ key, (P.unmarshal (P.marshal config)).1.lookup key = config.lookup key
  recover_protect : ∀ nonce plaintext,
    P.secrets.recover (P.secrets.protect nonce plaintext) = some plaintext

variable {P}

lemma SecretBox.seal_ne_empty (box : SecretBox) (nonce : Bytes) (plaintext : String) :
    box.seal nonce plaintext ≠ "" := by
  intro h
  simpa [SecretBox.seal] using congrArg String.toList h

lemma ChannelServices.Lawful.open_seal (lawful : P.Lawful) (nonce : Bytes) (plaintext : String) :
    P.secrets.open (P.secrets.seal nonce plaintext) = some plaintext := by
  simp [SecretBox.open, SecretBox.seal, String.toList_append, lawful.recover_protect]

/-- Configurations with the same values are valid for the same types. -/
lemma validateChannelConfig_congr {config config' : ChannelConfig α}
    (h : ∀ key, config.lookup key = config'.lookup key) (channelType : String) :
    validateChannelConfig P channelType config = validateChannelConfig P channelType config' := by
  have value : configValue P config = configValue P config' := by
    funext key
    rw [configValue, configValue, h key]
  have text : configText P config = configText P config' := by
    funext key
    rw [configText, configText, value]
  simp only [validateChannelConfig, value, text]

/-- A configuration that was validated fits when it is stored. -/
lemma ChannelServices.Lawful.fits_seal (lawful : P.Lawful) {channelType : String}
    {config : ChannelConfig α} (valid : validateChannelConfig P channelType config = .ok ())
    (nonce : Bytes) : Fits P channelType (P.secrets.seal nonce (P.marshal config)) := by
  obtain ⟨ok, same⟩ := lawful.unmarshal_marshal config
  refine ⟨(P.unmarshal (P.marshal config)).1, ?_, ?_⟩
  · simp [decryptedConfig, lawful.open_seal, ok]
  · rw [validateChannelConfig_congr same, valid]

/-- What is encrypted for a request: nothing, if it has no configuration, or a configuration that
was validated for its type. -/
lemma ChannelStore.encryptConfig_eq_ok {s : ChannelStore} {calls : SaveChannelCalls}
    {channel : ChannelInput α} {encrypted : String}
    (h : s.encryptConfig P calls channel = .ok encrypted) :
    (channel.config.rows = [] ∧ encrypted = "") ∨
      (channel.config.rows ≠ [] ∧ ∃ config nonce,
        validateChannelConfig P channel.type config = .ok () ∧
        encrypted = P.secrets.seal nonce (P.marshal config)) := by
  unfold encryptConfig at h
  by_cases empty : channel.config.rows.isEmpty
  · rw [if_pos empty] at h
    exact Or.inl ⟨List.isEmpty_iff.mp empty, (Except.ok.inj h).symm⟩
  · rw [if_neg empty] at h
    refine Or.inr ⟨fun none => empty (List.isEmpty_iff.mpr none), ?_⟩
    generalize s.newConfig P calls.listNotificationChannels channel = config at h
    cases valid : validateChannelConfig P channel.type config with
    | error message => simp [valid] at h
    | ok =>
      cases nonce : calls.nonce with
      | none => simp [valid, nonce] at h
      | some nonce' =>
        simp only [valid, nonce, Except.ok.injEq] at h
        exact ⟨config, nonce', valid, h.symm⟩

/-- What a successful call of the store leaves in the table. -/
lemma ChannelStore.saveNotificationChannel_eq_ok {s t : ChannelStore} {channel : ChannelInput α}
    {encrypted : String} {works : Bool} {id : ℤ}
    (h : s.saveNotificationChannel channel encrypted works = .ok (t, id)) :
    works = true ∧
      ((channel.id = 0 ∧ ∀ row, row ∈ t.channels ↔
          row = ⟨s.sequence + 1, channel.name, channel.type, encrypted, channel.enabled⟩ ∨
            row ∈ s.channels) ∨
        (channel.id ≠ 0 ∧ ∀ row, row ∈ t.channels ↔
          ∃ old ∈ s.channels, old.update channel encrypted = row)) := by
  unfold saveNotificationChannel at h
  by_cases hworks : works
  · rw [if_neg (by simp [hworks])] at h
    refine ⟨hworks, ?_⟩
    by_cases new : channel.id = 0
    · rw [if_pos new] at h
      refine Or.inl ⟨new, ?_⟩
      cases inserted : s.channels.insertNew
          ⟨s.sequence + 1, channel.name, channel.type, encrypted, channel.enabled⟩ with
      | none => simp [inserted] at h
      | some channels =>
        simp only [inserted, Except.ok.injEq, Prod.mk.injEq] at h
        obtain ⟨rfl, -⟩ := h
        exact (KeyedTable.insertNew_eq_some inserted).1
    · rw [if_neg new] at h
      refine Or.inr ⟨new, fun row => ?_⟩
      split_ifs at h
      obtain ⟨rfl, -⟩ := Prod.mk.inj (Except.ok.inj h)
      exact @KeyedTable.mem_updateAll _ _ _ _ _ (StoredChannel.id_update channel encrypted) row
  · rw [if_pos (by simpa using hworks)] at h
    cases h

/-- A request to save a channel changes nothing, or it stores what the checks have let through. -/
lemma ChannelStore.step_save_cases (s : ChannelStore) (request : SaveChannel α)
    (calls : SaveChannelCalls) :
    s.step P (.save request calls) = s ∨
      ∃ channel encrypted id, request.channel P = some channel ∧
        validateNotificationChannel channel = .ok () ∧
        s.encryptConfig P calls channel = .ok encrypted ∧ (channel.id = 0 → encrypted ≠ "") ∧
        s.saveNotificationChannel channel encrypted calls.saveNotificationChannel =
          .ok (s.step P (.save request calls), id) := by
  simp only [step, handleAdminSaveNotificationChannel]
  cases hchannel : request.channel P with
  | none => exact Or.inl rfl
  | some channel =>
    cases valid : validateNotificationChannel channel with
    | error message => exact Or.inl (by simp only [valid])
    | ok =>
      cases hencrypt : s.encryptConfig P calls channel with
      | error refusal => exact Or.inl (by simp only [valid, hencrypt])
      | ok encrypted =>
        simp only [valid, hencrypt]
        by_cases required : channel.id = 0 ∧ encrypted = ""
        · exact Or.inl (by rw [if_pos required])
        · rw [if_neg required]
          cases saved : s.saveNotificationChannel channel encrypted
              calls.saveNotificationChannel with
          | error error => cases error <;> exact Or.inl rfl
          | ok result =>
            exact Or.inr ⟨channel, encrypted, result.2, rfl, valid, hencrypt,
              fun id empty => required ⟨id, empty⟩, saved⟩

/-- A request without a configuration stores the type it gives. -/
lemma ChannelStore.step_save_of_noConfig {s : ChannelStore} {request : SaveChannel α}
    {calls : SaveChannelCalls} {channel : ChannelInput α}
    (hchannel : request.channel P = some channel)
    (valid : validateNotificationChannel channel = .ok ()) (noConfig : channel.config.rows = [])
    (works : calls.saveNotificationChannel = true) (old : channel.id ≠ 0) {row : StoredChannel}
    (mem : row ∈ s.channels) (id : row.id = channel.id) :
    row.update channel "" ∈ (s.step P (.save request calls)).channels := by
  have encrypted : s.encryptConfig P calls channel = .ok "" := by
    simp [encryptConfig, noConfig]
  have found : channel.id ∈ s.channels.rows.map StoredChannel.id :=
    id ▸ List.mem_map_of_mem mem
  simp only [step, handleAdminSaveNotificationChannel, hchannel, valid, encrypted, old, false_and,
    if_false, saveNotificationChannel, works, Bool.not_true, Bool.false_eq_true, found, not_true]
  exact KeyedTable.mem_updateAll.mpr ⟨row, mem, rfl⟩

/-- A request to save a channel keeps the channels valid if and only if it meets the condition. -/
lemma ChannelStore.valid_step_save_iff (lawful : P.Lawful) {s : ChannelStore} (h : s.Valid P)
    (request : SaveChannel α) (calls : SaveChannelCalls) :
    (s.step P (.save request calls)).Valid P ↔ s.KeepsValid P (.save request calls) := by
  constructor
  · intro next channel hchannel valid noConfig works old row mem id
    have fits := next _ (step_save_of_noConfig hchannel valid noConfig works old mem id)
    simpa [StoredChannel.update, id] using fits
  · intro keeps
    rcases s.step_save_cases request calls with same |
      ⟨channel, encrypted, id, hchannel, valid, encrypt, required, saved⟩
    · rw [same]
      exact h
    intro row mem
    obtain ⟨works, ⟨new, rows⟩ | ⟨old, rows⟩⟩ := saveNotificationChannel_eq_ok saved
    · -- a new channel has a configuration that was validated
      rcases (rows row).mp mem with rfl | mem
      · rcases encryptConfig_eq_ok encrypt with ⟨-, empty⟩ | ⟨-, config, nonce, fits, rfl⟩
        · exact absurd empty (required new)
        · exact lawful.fits_seal fits nonce
      · exact h row mem
    · obtain ⟨oldRow, oldMem, rfl⟩ := (rows row).mp mem
      by_cases other : oldRow.id ≠ channel.id
      · simpa [StoredChannel.update, other] using h oldRow oldMem
      · have id := not_not.mp other
        rcases encryptConfig_eq_ok encrypt with ⟨noConfig, rfl⟩ | ⟨-, config, nonce, fits, rfl⟩
        · simpa [StoredChannel.update, id] using
            keeps channel hchannel valid noConfig works old oldRow oldMem id
        · simpa [StoredChannel.update, id, SecretBox.seal_ne_empty] using
            lawful.fits_seal fits nonce

/-- A deletion keeps the channels valid. -/
lemma ChannelStore.valid_step_delete {s : ChannelStore} (h : s.Valid P) (rawID : String)
    (works : Bool) : (s.step P (.delete rawID works)).Valid P := by
  simp only [step, handleAdminDeleteNotificationChannel]
  cases parsePositiveID P rawID with
  | none => exact h
  | some id =>
    simp only [deleteNotificationChannel]
    by_cases fails : !works
    · rwa [if_pos fails]
    rw [if_neg fails]
    by_cases missing : id ∉ s.channels.rows.map StoredChannel.id
    · rwa [if_pos missing]
    · rw [if_neg missing]
      intro row mem
      exact h row (KeyedTable.mem_deleteWhere.mp mem).1

/-- A request that keeps the type of the channel meets the condition. -/
theorem ChannelStore.keepsValid_of_sameType {s : ChannelStore} (h : s.Valid P)
    {request : SaveChannel α} (calls : SaveChannelCalls)
    (sameType : ∀ channel, request.channel P = some channel →
      ∀ row ∈ s.channels, row.id = channel.id → row.type = channel.type) :
    s.KeepsValid P (.save request calls) := by
  intro channel hchannel _ _ _ _ row mem id
  rw [← sameType channel hchannel row mem id]
  exact h row mem

/-- All stored channels are valid in every state that a sequence of requests leads through, if and
only if each request without a configuration that changes a channel gives it a type that the stored
configuration is valid for. -/
theorem channels_valid_iff (lawful : P.Lawful) (events : List (ChannelEvent α)) :
    Always (ChannelStore.step P) (ChannelStore.Valid P) {} events ↔
      Along (ChannelStore.step P) (ChannelStore.KeepsValid P) {} events := by
  refine always_iff_along (fun s event valid => ?_) fun row mem => ?_
  · cases event with
    | save request calls => exact ChannelStore.valid_step_save_iff lawful valid request calls
    | delete rawID works =>
      exact iff_of_true (ChannelStore.valid_step_delete valid rawID works) trivial
  · exact absurd mem (KeyedTable.notMem_empty row)

/-! ## Examples -/

/-- The configuration of a channel of type `telegram`. -/
def telegramConfig : ChannelConfig String :=
  ⟨[("bot_token", "123:abc"), ("chat_id", "42")], by decide⟩

/-- Its JSON text. -/
def telegramJSON : String := "\x7b\"bot_token\":\"123:abc\",\"chat_id\":\"42\"\x7d"

/-- A number for each character. -/
instance encodableChar : Encodable Char :=
  Encodable.ofLeftInverse Char.toNat Char.ofNat Char.ofNat_toNat

/-- A number for each text. -/
instance encodableString : Encodable String :=
  Encodable.ofLeftInverse String.toList String.ofList fun _ => String.ofList_toList

/-- Services whose values are texts.  The other configurations are written in a code of their own.
-/
def exampleChannelServices : ChannelServices String where
  typeSwitch := .text
  parseInt raw := if raw = "1" then some 1 else none
  toLower name := name
  parseURL _ := none
  parseAddress _ := .ok ()
  marshal config :=
    if config.rows = telegramConfig.rows then telegramJSON
    else String.ofList (List.replicate (Encodable.encode config.rows) '1')
  unmarshal text :=
    if text = telegramJSON then (telegramConfig, true)
    else
      match (Encodable.decode text.toList.length : Option (List (String × String))) with
      | none => (.empty, false)
      | some rows =>
        if nodup : (rows.map Prod.fst).Nodup then (⟨rows, nodup⟩, true) else (.empty, false)
  secrets := { protect := fun _ plaintext => plaintext, recover := some }

lemma exampleChannelServices_lawful : exampleChannelServices.Lawful where
  unmarshal_marshal config := by
    by_cases known : config.rows = telegramConfig.rows
    · have same : config = telegramConfig := by
        cases config
        cases known
        rfl
      rw [same]
      exact ⟨rfl, fun _ => rfl⟩
    · have other :
          String.ofList (List.replicate (Encodable.encode config.rows) '1') ≠ telegramJSON := by
        intro h
        have := congrArg String.toList h
        rw [String.toList_ofList] at this
        cases encode : Encodable.encode config.rows with
        | zero => simp [encode, telegramJSON] at this
        | succ n => simp [encode, telegramJSON, List.replicate_succ] at this
      simp [exampleChannelServices, known, other, config.keys_nodup]
  recover_protect _ _ := rfl

/-- A request to create a channel of type `telegram`. -/
def createTelegram : SaveChannel String :=
  { body := { name := "Ops", type := "telegram", config := telegramConfig, enabled := true } }

/-- The requests that create a channel of type `telegram`, rename it and delete it. -/
def renamedChannel : List (ChannelEvent String) :=
  [.save createTelegram {},
    .save
      { pathID := some "1", body := { name := "On call", type := "telegram", enabled := true } } {},
    .delete "1" true]

/-- A channel that is renamed stays valid. -/
theorem channels_valid_renamedChannel :
    Always (ChannelStore.step exampleChannelServices) (ChannelStore.Valid exampleChannelServices) {}
      renamedChannel := by
  refine (channels_valid_iff exampleChannelServices_lawful renamedChannel).mpr
    ⟨?_, ?_, trivial, trivial⟩
  · intro channel _ _ _ _ _ row mem
    exact absurd mem (KeyedTable.notMem_empty row)
  · refine ChannelStore.keepsValid_of_sameType (by decide) {} ?_
    intro channel hchannel row mem _
    cases hchannel
    obtain rfl := List.mem_singleton.mp mem
    rfl

/-- The requests that create a channel of type `telegram` and make it one of type `bark`. -/
def retypedChannel : List (ChannelEvent String) :=
  [.save createTelegram {},
    .save { pathID := some "1", body := { name := "Ops", type := "bark", enabled := true } } {}]

/-- A channel that gets another type without a configuration is not valid. -/
theorem channel_invalid :
    ¬ ∀ (P : ChannelServices String), P.Lawful → ∀ events : List (ChannelEvent String),
      Always (ChannelStore.step P) (ChannelStore.Valid P) {} events := by
  intro claim
  have valid := claim exampleChannelServices exampleChannelServices_lawful retypedChannel
    retypedChannel List.prefix_rfl
  revert valid
  decide

end Hostpin
