import Intake.Rows.Message
import Mathlib.Tactic.MkIffOfInductiveProp

/-!
# What rows keep

A message or an attachment that is written to a row and read back is what it was. A row from elsewhere may leave out
columns, or fill those of several payloads, or hold a word that stands for nothing; reading it settles on one meaning,
and what is written for that is written again unchanged (`rows_lossless`). The rows that are unchanged from the start
are the consistent ones.
-/

namespace Intake

/-! ## Columns and words -/

/-- If exactly the names of things are read, a word is kept unless it has to be taken for the name of `unknown`. -/
theorem name_getD_eq_iff {α : Type} {name : α → String} {ofName? : String → Option α}
    (hread : ∀ s a, ofName? s = some a ↔ name a = s) (unknown : α) (s : String) :
    name ((ofName? s).getD unknown) = s ↔ (ofName? s).isSome = true := by
  cases hs : ofName? s with
  | none =>
    have hne : name unknown ≠ s := by
      intro h
      rw [(hread s unknown).2 h] at hs
      cases hs
    simp [hne]
  | some a =>
    have hname : name a = s := (hread s a).1 hs
    simp [hname]

theorem some_getD_eq_iff {α : Type} {o : Option α} {a : α} : some (o.getD a) = o ↔ o.isSome = true := by
  cases o <;> simp

theorem FileType.ofName?_eq_some_iff (s : String) (t : FileType) : ofName? s = some t ↔ t.name = s := by
  constructor
  · intro h
    unfold ofName? at h
    split at h <;> cases h <;> rfl
  · rintro rfl
    cases t <;> rfl

theorem MessageDirection.ofName?_eq_some_iff (s : String) (d : MessageDirection) : ofName? s = some d ↔ d.name = s := by
  constructor
  · intro h
    unfold ofName? at h
    split at h <;> cases h <;> rfl
  · rintro rfl
    cases d <;> rfl

theorem MessageStatus.ofName?_eq_some_iff (s : String) (t : MessageStatus) : ofName? s = some t ↔ t.name = s := by
  constructor
  · intro h
    unfold ofName? at h
    split at h <;> cases h <;> rfl
  · rintro rfl
    exact ofName?_name t

theorem FileType.ofName_name (t : FileType) : ofName t.name = t := by
  rw [ofName, (ofName?_eq_some_iff _ t).2 rfl, Option.getD_some]

theorem MessageDirection.ofName_name (d : MessageDirection) : ofName d.name = d := by
  rw [ofName, (ofName?_eq_some_iff _ d).2 rfl, Option.getD_some]

/-! ## Messages -/

theorem Message.toMessage_toRow (m : Message) : m.toRow.toMessage = m := by
  simp [toRow, MessageRow.toMessage, MessageDirection.ofName_name, MessageStatus.ofName?_name]

namespace MessageRow

/-- Both words of the row are known. -/
def IsConsistent (r : MessageRow) : Prop :=
  (MessageDirection.ofName? r.direction).isSome = true ∧ (MessageStatus.ofName? r.status).isSome = true

theorem toRow_toMessage_iff (r : MessageRow) : r.toMessage.toRow = r ↔ r.IsConsistent := by
  have hdirection := name_getD_eq_iff MessageDirection.ofName?_eq_some_iff .incoming r.direction
  have hstatus := name_getD_eq_iff MessageStatus.ofName?_eq_some_iff .sent r.status
  rw [IsConsistent, ← hdirection, ← hstatus]
  obtain ⟨id, account, inbox, conversation, sender, direction, content, sourceId, inReplyTo, status, externalError,
    createdAt⟩ := r
  simp [toMessage, Message.toRow, MessageDirection.ofName]

end MessageRow

/-! ## Attachments -/

theorem Attachment.toAttachment_toRow (a : Attachment) : a.toRow.toAttachment = a := by
  obtain ⟨id, message, account, fileType, payload⟩ := a
  cases payload with
  | file filename contentType data =>
    simp [toRow, AttachmentRow.toAttachment, AttachmentRow.payload, FileType.ofName_name]
  | location latitude longitude title externalUrl =>
    simp [toRow, AttachmentRow.toAttachment, AttachmentRow.payload, FileType.ofName_name]
  | fallback title =>
    simp [toRow, AttachmentRow.toAttachment, AttachmentRow.payload, FileType.ofName_name]

namespace AttachmentRow

/-- The type is known, and the row fills the columns of one payload: a name and a type come with data and with nothing
else, and a title with everything but data; there is a pair of coordinates or none, and a link only beside a pair. -/
@[mk_iff]
structure IsConsistent (r : AttachmentRow) : Prop where
  fileType : (FileType.ofName? r.fileType).isSome = true
  filename : r.filename.isSome = r.data.isSome
  contentType : r.contentType.isSome = r.data.isSome
  title : r.fallbackTitle.isSome = r.data.isNone
  pair : r.latitude.isSome = r.longitude.isSome
  place : r.latitude.isSome = true → r.data = none
  link : r.externalUrl.isSome = true → r.latitude.isSome = true

theorem toRow_toAttachment_iff (r : AttachmentRow) : r.toAttachment.toRow = r ↔ r.IsConsistent := by
  have hname : (FileType.ofName r.fileType).name = r.fileType ↔ (FileType.ofName? r.fileType).isSome = true :=
    name_getD_eq_iff FileType.ofName?_eq_some_iff .file r.fileType
  rw [isConsistent_iff, ← hname]
  obtain ⟨id, message, account, fileType, filename, contentType, data, latitude, longitude, title, link⟩ := r
  -- the payload that is read is told by these three columns
  rcases data with _ | data <;> rcases latitude with _ | latitude <;> rcases longitude with _ | longitude <;>
    simp [toAttachment, payload, Attachment.toRow, some_getD_eq_iff, @eq_comm _ none]

end AttachmentRow

/-- Nothing is lost on the way through a row. Reading an arbitrary row and writing it again is done once and for all,
and leaves exactly the consistent rows as they are. -/
theorem rows_lossless :
    (∀ a : Attachment, a.toRow.toAttachment = a) ∧ (∀ m : Message, m.toRow.toMessage = m) ∧
      (∀ r : AttachmentRow, r.toAttachment.toRow.toAttachment.toRow = r.toAttachment.toRow ∧
        (r.toAttachment.toRow = r ↔ r.IsConsistent)) ∧
      ∀ r : MessageRow, r.toMessage.toRow.toMessage.toRow = r.toMessage.toRow ∧
        (r.toMessage.toRow = r ↔ r.IsConsistent) := by
  refine ⟨Attachment.toAttachment_toRow, Message.toMessage_toRow, ?_, ?_⟩
  · intro r
    have hagain : r.toAttachment.toRow.toAttachment = r.toAttachment := Attachment.toAttachment_toRow _
    exact ⟨congrArg Attachment.toRow hagain, r.toRow_toAttachment_iff⟩
  · intro r
    have hagain : r.toMessage.toRow.toMessage = r.toMessage := Message.toMessage_toRow _
    exact ⟨congrArg Message.toRow hagain, r.toRow_toMessage_iff⟩

/-- Data win over a coordinate and a title, and a word that stands for nothing means a file. -/
example (id message account : Snowflake) (latitude : Double) :
    let row : AttachmentRow := { id, message, account, fileType := "sticker" }
    { row with data := some [0x25], latitude := some latitude, fallbackTitle := some "Dam" }.toAttachment.toRow =
      { row with
        fileType := "file", filename := some "", contentType := some "application/octet-stream",
        data := some [0x25] } :=
  rfl

end Intake
