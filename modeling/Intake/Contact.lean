import Intake.Channel

/-!
# Contacts

A contact is a person known to an account by phone number; a contact inbox links it to an inbox where it has written.
The link is keyed by the digits of the phone number, so formatting never makes two contacts out of one.
-/

namespace Intake

structure Contact where
  id : Snowflake
  account : Snowflake
  name : String
  phoneNumber : Option String
deriving DecidableEq, Repr

structure ContactInbox where
  id : Snowflake
  contact : Snowflake
  inbox : Snowflake
  sourceId : String
deriving DecidableEq, Repr

structure ResolvedContact where
  contact : Contact
  contactInbox : ContactInbox
deriving DecidableEq, Repr

/-- Who sent an event, as the provider wrote it. -/
structure Sender where
  phone : String
  name : Option String
deriving DecidableEq, Repr

/-- A contact to be found or made. -/
structure NewContact where
  account : Snowflake
  inbox : Snowflake
  sourceId : String
  name : String
  phoneNumber : String
deriving DecidableEq, Repr

/-- The ASCII digits of a phone number, if it has any. -/
def phoneDigits? (phone : String) : Option String :=
  let ds := phone.toList.filter Char.isDigit
  if ds = [] then none else some (String.ofList ds)

namespace NewContact

def unknownName : String := "unknown"

/-- The contact behind a sender, unless the phone number has no digit. -/
def ofSender? (inbox : Inbox) (sender : Sender) : Option NewContact :=
  (phoneDigits? sender.phone).map fun digits =>
    { account := inbox.account
      inbox := inbox.id
      sourceId := digits
      name := (sender.name.bind Text.nonBlank).getD unknownName
      phoneNumber := "+" ++ digits }

end NewContact

end Intake
