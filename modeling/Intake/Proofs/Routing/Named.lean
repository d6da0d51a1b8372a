import Intake.Proofs.Delivery.Route

/-!
# The channel that a job names

What a job says about its channel, by its shape: the name of the provider's app, the display number and number id of the
first business value, or the digits of the phone number in the address. `Seeks` is what the look-up compares, and
`Names` what is asked of the channel found. The job is routed to the first channel that it seeks, if it names that one
and nothing bars it (`Tables.route_eq_active_iff`).
-/

namespace Intake

open Json

theorem Json.string?_eq_some_iff {j : Json} {s : String} : j.string? = some s ↔ j = .string s := by
  cases j <;> simp [string?]

namespace WebhookJob

/-- The metadata of the first change of the first entry give that display number and that number id. -/
def ShowsNumber (job : WebhookJob) (display id : String) : Prop :=
  ∃ metadata, Routing.descendant? ["entry", "0", "changes", "0", "value", "metadata"] job.payload = some metadata ∧
    (metadata.get? "display_phone_number").bind Routing.metadataText? = some display ∧
    (metadata.get? "phone_number_id").bind Routing.metadataText? = some id

def Seeks (job : WebhookJob) (c : Channel) : Prop :=
  match job.effectiveShape with
  | .gupshup =>
    ∃ app, job.payload.get? "app" = some (.string app) ∧ c.provider = .gupshup ∧
      c.credentials.appName? = some (Text.trim app)
  | .businessAccount =>
    ∃ display id, job.ShowsNumber display id ∧ c.phoneNumber = "+" ++ Text.dropLeading '+' display
  | .direct =>
    ∃ phone, job.phoneNumber = some phone ∧ (∃ d ∈ phone.toList, d.isDigit = true) ∧
      c.phoneNumber = "+" ++ String.ofList (phone.toList.filter Char.isDigit)

/-- The job seeks the channel, and shows the channel's number id if it is for a business account. -/
def Names (job : WebhookJob) (c : Channel) : Prop :=
  job.Seeks c ∧ (job.effectiveShape = .businessAccount →
    ∃ display id, job.ShowsNumber display id ∧ c.credentials.phoneNumberId? = some id)

end WebhookJob

namespace Routing

variable {payload : Json} {name : String}

theorem appName?_eq_some_iff :
    appName? payload = some name ↔
      ∃ app, payload.get? "app" = some (.string app) ∧ name = Text.trim app ∧ name ≠ "" := by
  simp only [appName?, Option.bind_assoc, Option.bind_eq_some_iff, string?_eq_some_iff, Text.nonBlank]
  constructor
  · rintro ⟨_, hget, app, rfl, hname⟩
    split at hname
    · cases hname
    · next hne =>
      obtain rfl := Option.some.inj hname
      exact ⟨app, hget, rfl, hne⟩
  · rintro ⟨app, hget, rfl, hne⟩
    exact ⟨_, hget, app, rfl, if_neg hne⟩

theorem businessNumber?_eq_some_iff {job : WebhookJob} {display id : String} :
    businessNumber? job.payload = some (display, id) ↔ job.ShowsNumber display id := by
  simp only [businessNumber?, WebhookJob.ShowsNumber, Option.bind_eq_bind, Option.bind_eq_some_iff]
  constructor
  · rintro ⟨metadata, hm, display', hd, id', hi, heq⟩
    obtain ⟨rfl, rfl⟩ := Prod.mk.inj (Option.some.inj heq)
    exact ⟨metadata, hm, hd, hi⟩
  · rintro ⟨metadata, hm, hd, hi⟩
    exact ⟨metadata, hm, display, hd, id, hi, rfl⟩

end Routing

theorem phoneDigits?_eq_some_iff {phone digits : String} :
    phoneDigits? phone = some digits ↔
      (∃ d ∈ phone.toList, d.isDigit = true) ∧ digits = String.ofList (phone.toList.filter Char.isDigit) := by
  rw [← List.any_eq_true, phoneDigits?]
  split
  · next h =>
    have hany : phone.toList.any Char.isDigit = false := by simpa [List.filter_eq_nil_iff] using h
    simp [hany]
  · next h =>
    have hany : phone.toList.any Char.isDigit = true := by simpa [List.filter_eq_nil_iff] using h
    simp [hany, eq_comm]

/-- The app name of a channel is not blank, so it is no trimmed name of nothing. -/
theorem Credentials.trim_ne_empty {credentials : Credentials} {app : String}
    (h : credentials.appName? = some (Text.trim app)) : Text.trim app ≠ "" := by
  intro hempty
  have hblank : Text.trim "" = "" := by decide
  rw [appName?, get?, hempty, Option.filter_eq_some_iff] at h
  simp [hblank] at h

namespace WebhookJob

variable {job : WebhookJob} {c : Channel}

theorem seeks_gupshup_iff (hs : job.effectiveShape = .gupshup) :
    job.Seeks c ↔ ∃ name, Routing.appName? job.payload = some name ∧ c.provider = .gupshup ∧
      c.credentials.appName? = some name := by
  simp only [Seeks, hs, Routing.appName?_eq_some_iff]
  constructor
  · rintro ⟨app, hget, hp, hc⟩
    exact ⟨_, ⟨app, hget, rfl, Credentials.trim_ne_empty hc⟩, hp, hc⟩
  · rintro ⟨_, ⟨app, hget, rfl, -⟩, hp, hc⟩
    exact ⟨app, hget, hp, hc⟩

theorem seeks_businessAccount_iff (hs : job.effectiveShape = .businessAccount) :
    job.Seeks c ↔ ∃ display id, Routing.businessNumber? job.payload = some (display, id) ∧
      c.phoneNumber = "+" ++ Text.dropLeading '+' display := by
  simp only [Seeks, hs, Routing.businessNumber?_eq_some_iff]

theorem seeks_direct_iff (hs : job.effectiveShape = .direct) :
    job.Seeks c ↔ ∃ digits, job.phoneNumber.bind phoneDigits? = some digits ∧ c.phoneNumber = "+" ++ digits := by
  simp only [Seeks, hs, Option.bind_eq_some_iff, phoneDigits?_eq_some_iff]
  constructor
  · rintro ⟨phone, hp, hd, hc⟩
    exact ⟨_, ⟨phone, hp, hd, rfl⟩, hc⟩
  · rintro ⟨_, ⟨phone, hp, hd, rfl⟩, hc⟩
    exact ⟨phone, hp, hd, hc⟩

end WebhookJob

namespace Tables

/-- The look-up finds a channel that the job names: no earlier one is sought. -/
def FirstNamed (tb : Tables) (job : WebhookJob) (c : Channel) : Prop :=
  ∃ before after, tb.channels = before ++ c :: after ∧ job.Names c ∧ ∀ d ∈ before, ¬ job.Seeks d

/-- Everything that a delivery to the channel rests on. -/
structure Serves (tb : Tables) (job : WebhookJob) (target : ResolvedChannel) : Prop where
  stored : target.channel ∈ tb.channels
  authorized : target.channel.reauthorizationRequired = false
  active : tb.accounts.lookup target.channel.account = some .active
  inbox : target.inbox ∈ tb.inboxes
  linked : target.inbox.channel = target.channel.id
  named : job.Names target.channel

variable {tb : Tables} {job : WebhookJob} {c : Channel} {target : ResolvedChannel}

theorem find?_eq_some_iff_first {p : Channel → Bool} {channels : List Channel} (hp : ∀ d, job.Seeks d ↔ p d = true) :
    channels.find? p = some c ↔
      ∃ before after, channels = before ++ c :: after ∧ job.Seeks c ∧ ∀ d ∈ before, ¬ job.Seeks d := by
  rw [List.find?_eq_some_iff_append]
  constructor
  · rintro ⟨hc, before, after, rfl, hb⟩
    refine ⟨before, after, rfl, (hp c).2 hc, fun d hd hs => ?_⟩
    have hd' := hb d hd
    rw [(hp d).1 hs] at hd'
    cases hd'
  · rintro ⟨before, after, rfl, hc, hb⟩
    refine ⟨(hp c).1 hc, before, after, rfl, fun d hd => ?_⟩
    rw [Bool.not_eq_true']
    exact Bool.eq_false_iff.2 fun hd' => hb d hd ((hp d).2 hd')

theorem firstNamed_iff_of_shape (hs : job.effectiveShape ≠ .businessAccount) :
    tb.FirstNamed job c ↔
      ∃ before after, tb.channels = before ++ c :: after ∧ job.Seeks c ∧ ∀ d ∈ before, ¬ job.Seeks d := by
  simp only [FirstNamed, WebhookJob.Names, hs, false_implies, and_true]

theorem channelOf_eq_some_iff : tb.channelOf job = some c ↔ tb.FirstNamed job c := by
  cases hs : job.effectiveShape with
  | gupshup =>
    rw [firstNamed_iff_of_shape (by rw [hs]; decide)]
    simp only [channelOf, hs]
    cases hn : Routing.appName? job.payload with
    | none =>
      simp [WebhookJob.seeks_gupshup_iff hs, hn]
    | some name =>
      rw [Option.bind_some, findGupshupChannel]
      refine find?_eq_some_iff_first fun d => ?_
      simp [WebhookJob.seeks_gupshup_iff hs, hn]
  | direct =>
    rw [firstNamed_iff_of_shape (by rw [hs]; decide)]
    simp only [channelOf, hs]
    cases hd : job.phoneNumber.bind phoneDigits? with
    | none => simp [WebhookJob.seeks_direct_iff hs, hd]
    | some digits =>
      rw [Option.bind_some, findChannelByPhone]
      refine find?_eq_some_iff_first fun d => ?_
      simp [WebhookJob.seeks_direct_iff hs, hd]
  | businessAccount =>
    simp only [channelOf, hs, FirstNamed, WebhookJob.Names, ← Routing.businessNumber?_eq_some_iff, true_implies]
    cases hb : Routing.businessNumber? job.payload with
    | none => simp
    | some number =>
      obtain ⟨display, id⟩ := number
      have hseeks : ∀ d, job.Seeks d ↔ decide (d.phoneNumber = "+" ++ Text.dropLeading '+' display) = true := by
        intro d
        simp [WebhookJob.seeks_businessAccount_iff hs, hb]
      rw [Option.bind_some, Option.filter_eq_some_iff, findChannelByPhone, find?_eq_some_iff_first hseeks]
      simp only [Channel.hasPhoneNumberId, decide_eq_true_eq]
      constructor
      · rintro ⟨⟨before, after, hl, hc, hb⟩, hid⟩
        exact ⟨before, after, hl, ⟨hc, display, id, rfl, hid⟩, hb⟩
      · rintro ⟨before, after, hl, ⟨hc, display', id', heq, hid⟩, hb⟩
        cases heq
        exact ⟨⟨before, after, hl, hc, hb⟩, hid⟩

theorem isActive_accountStatus_iff {account : Snowflake} :
    (tb.accountStatus account).isActive = true ↔ tb.accounts.lookup account = some .active := by
  rw [accountStatus, AccountStatus.isActive, decide_eq_true_eq]
  cases tb.accounts.lookup account with
  | none => simp
  | some status => simp

theorem route_eq_active_iff :
    tb.route job = .active target ↔
      tb.FirstNamed job target.channel ∧ target.channel.reauthorizationRequired = false ∧
        tb.accounts.lookup target.channel.account = some .active ∧
        tb.findInbox target.channel.id = some target.inbox := by
  rw [← channelOf_eq_some_iff, ← isActive_accountStatus_iff]
  constructor
  · intro h
    have hinbox := findInbox_of_route h
    unfold route at h
    split at h
    · cases h
    · next channel hc =>
      split at h
      · cases h
      · next hr =>
        split at h
        · cases h
        · next ha =>
          split at h
          · cases h
            exact ⟨hc, by simpa using hr, by simpa using ha, hinbox⟩
          · cases h
  · rintro ⟨hc, hr, ha, hi⟩
    rw [route_of_channel hc, if_neg (by simp [hr]), if_neg (by simp [ha]), hi]

theorem serves_of_route (h : tb.route job = .active target) : tb.Serves job target := by
  obtain ⟨⟨before, after, hl, hn, -⟩, hr, ha, hi⟩ := route_eq_active_iff.1 h
  refine ⟨?_, hr, ha, List.mem_of_find?_eq_some hi, ?_, hn⟩
  · rw [hl]
    exact List.mem_append_right _ List.mem_cons_self
  · simpa using List.find?_some hi

/-- The job goes to a channel that serves it and that its look-up finds, whichever inbox of the channel comes first. -/
theorem Serves.exists_route (h : tb.Serves job target) (hf : tb.FirstNamed job target.channel) :
    ∃ inbox, tb.route job = .active ⟨target.channel, inbox⟩ := by
  have hsome : (tb.findInbox target.channel.id).isSome = true := by
    rw [findInbox, List.find?_isSome]
    exact ⟨target.inbox, h.inbox, by simpa using h.linked⟩
  obtain ⟨inbox, hi⟩ := Option.isSome_iff_exists.1 hsome
  exact ⟨inbox, route_eq_active_iff.2 ⟨hf, h.authorized, h.active, hi⟩⟩

end Tables

end Intake
