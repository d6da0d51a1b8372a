import Intake.Delivery.Routing
import Intake.Proofs.Program.Exchange
import Intake.Store.Tables

/-!
# Where a job goes

Tenants are the channels, the inboxes and the standing of accounts. Look-ups among them that do not fail get the reply
that the tables give (`Exchange.Fits`), and then a job is routed as the tables say (`Tables.route`).
-/

namespace Intake

def Tables.tenants (t : Tables) : List Channel × List Inbox × List (Snowflake × AccountStatus) :=
  (t.channels, t.inboxes, t.accounts)

/-- A look-up among the tenants got the reply that the tables give, unless it failed. -/
def Exchange.Fits (t : Tables) : Exchange → Prop
  | ⟨.findChannelByPhone phoneNumber, b⟩ => ∀ channel, b = .ok channel → channel = t.findChannelByPhone phoneNumber
  | ⟨.findGupshupChannel appName, b⟩ => ∀ channel, b = .ok channel → channel = t.findGupshupChannel appName
  | ⟨.accountStatus account, b⟩ => ∀ status, b = .ok status → status = t.accountStatus account
  | ⟨.findInbox channel, b⟩ => ∀ inbox, b = .ok inbox → inbox = t.findInbox channel
  | _ => True

theorem Exchange.Fits.congr {t t' : Tables} {x : Exchange} (h : x.Fits t) (ht : t'.tenants = t.tenants) :
    x.Fits t' := by
  obtain ⟨hc, hi, ha⟩ : t'.channels = t.channels ∧ t'.inboxes = t.inboxes ∧ t'.accounts = t.accounts := by
    simpa [Tables.tenants] using ht
  unfold Fits at h ⊢
  split <;> simp only [Tables.findChannelByPhone, Tables.findGupshupChannel, Tables.accountStatus,
    Tables.findInbox, hc, hi, ha] at h ⊢ <;> exact h

theorem Exchange.exists_fits (t : Tables) (r : Request) : ∃ b, Exchange.Fits t ⟨r, b⟩ := by
  cases r with
  | findChannelByPhone | findGupshupChannel | accountStatus | findInbox => exact ⟨.error default, nofun⟩
  | fetch => exact ⟨none, trivial⟩
  | newId | now => exact ⟨default, trivial⟩
  | pause => exact ⟨(), trivial⟩
  | _ => exact ⟨.error default, trivial⟩

namespace Tables

variable (tb : Tables)

def channelOf (job : WebhookJob) : Option Channel :=
  match job.effectiveShape with
  | .gupshup => (Routing.appName? job.payload).bind tb.findGupshupChannel
  | .businessAccount => (Routing.businessNumber? job.payload).bind fun (display, id) =>
    (tb.findChannelByPhone ("+" ++ Text.dropLeading '+' display)).filter (·.hasPhoneNumberId id)
  | .direct => (job.phoneNumber.bind phoneDigits?).bind fun digits => tb.findChannelByPhone ("+" ++ digits)

def route (job : WebhookJob) : Resolution :=
  match tb.channelOf job with
  | none => .notFound
  | some channel =>
    if channel.reauthorizationRequired then .inactive channel
    else if !(tb.accountStatus channel.account).isActive then .inactive channel
    else match tb.findInbox channel.id with
      | some inbox => .active { channel, inbox }
      | none => .notFound

variable {tb} {job : WebhookJob} {t : List Exchange}

theorem route_of_channel {channel : Channel} (h : tb.channelOf job = some channel) :
    tb.route job =
      if channel.reauthorizationRequired then .inactive channel
      else if !(tb.accountStatus channel.account).isActive then .inactive channel
      else match tb.findInbox channel.id with
        | some inbox => .active { channel, inbox }
        | none => .notFound := by
  rw [route, h]

theorem findInbox_of_route {target : ResolvedChannel} (h : tb.route job = .active target) :
    tb.findInbox target.channel.id = some target.inbox := by
  unfold route at h
  split at h
  · cases h
  · split at h
    · cases h
    · split at h
      · cases h
      · split at h
        · next hi =>
          cases h
          exact hi
        · cases h

end Tables

namespace Routing

variable {tb : Tables} {job : WebhookJob} {t : List Exchange}

theorem findChannel_yields {channel : Option Channel} (h : (findChannel job).run.Yields t (.ok channel))
    (ht : ∀ x ∈ t, x.Fits tb) : channel = tb.channelOf job := by
  unfold findChannel at h
  split at h
  · next hs =>
    rw [Tables.channelOf, hs]
    split at h
    · next app ha =>
      obtain rfl := Program.yields_request.1 h
      rw [ha]
      exact ht _ List.mem_cons_self channel rfl
    · next ha =>
      obtain ⟨-, h⟩ := h
      cases h
      rw [ha]
      rfl
  · next hs =>
    rw [Tables.channelOf, hs]
    split at h
    · next display id hb =>
      rcases Attempt.yields_bind.1 h with ⟨e, -, h'⟩ | ⟨t₁, found, t₂, rfl, h₁, h₂⟩
      · cases h'
      obtain rfl := Program.yields_request.1 h₁
      obtain ⟨rfl, h₃⟩ := h₂
      cases h₃
      rw [hb, ht _ List.mem_cons_self found rfl]
      rfl
    · next hb =>
      obtain ⟨-, h⟩ := h
      cases h
      rw [hb]
      rfl
  · next hs =>
    rw [Tables.channelOf, hs]
    split at h
    · next digits hd =>
      obtain rfl := Program.yields_request.1 h
      rw [hd]
      exact ht _ List.mem_cons_self channel rfl
    · next hd =>
      obtain ⟨-, h⟩ := h
      cases h
      rw [hd]
      rfl

theorem resolve_yields {resolution : Resolution} (h : (resolve job).run.Yields t (.ok resolution))
    (ht : ∀ x ∈ t, x.Fits tb) : resolution = tb.route job := by
  unfold resolve at h
  rcases Attempt.yields_bind.1 h with ⟨e, -, h'⟩ | ⟨t₁, channel, t₂, rfl, h₁, h₂⟩
  · cases h'
  rw [List.forall_mem_append] at ht
  have hc := findChannel_yields h₁ ht.1
  split at h₂
  · obtain ⟨-, h⟩ := h₂
    cases h
    rw [Tables.route, ← hc]
  · next channel =>
    rw [Tables.route_of_channel hc.symm]
    split at h₂
    · next hr =>
      obtain ⟨-, h⟩ := h₂
      cases h
      rw [if_pos hr]
    · next hr =>
      rw [if_neg hr]
      rcases Attempt.yields_bind.1 h₂ with ⟨e, -, h'⟩ | ⟨t₃, status, t₄, rfl, h₃, h₄⟩
      · cases h'
      obtain rfl := Program.yields_request.1 h₃
      rw [← ht.2 _ List.mem_cons_self status rfl]
      split at h₄
      · next ha =>
        obtain ⟨-, h⟩ := h₄
        cases h
        rw [if_pos ha]
      · next ha =>
        rw [if_neg ha]
        rcases Attempt.yields_bind.1 h₄ with ⟨e, -, h'⟩ | ⟨t₅, inbox, t₆, rfl, h₅, h₆⟩
        · cases h'
        obtain rfl := Program.yields_request.1 h₅
        rw [← ht.2 _ (List.mem_cons_of_mem _ List.mem_cons_self) inbox rfl]
        split at h₆
        · obtain ⟨-, h⟩ := h₆
          cases h
          rfl
        · obtain ⟨-, h⟩ := h₆
          cases h
          rfl

end Routing

end Intake
