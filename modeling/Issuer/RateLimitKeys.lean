import Issuer.RateLimits

/-!
# The keys of the rate-limit namespace

Each formatter of the namespace, over everything its callers can hand to it, as one type of counters:
`Counter.key` is injective.
-/

namespace Issuer

open Rust

/-- A hex hash, whole or cut to 128 bits. -/
@[ext] structure KeyHash where
  text : String
  length : text.toList.length = 64 ∨ text.toList.length = 32
  hex : text.toList.all isAsciiHexdigit = true

@[ext] structure ClientId where
  text : String
  valid : validateIdentifier text "client_id" = .ok ()

@[ext] structure ActorId where
  type : String
  id : String
  valid : validateActor type id = .ok ()

inductive Counter where
  | quota (client : ClientId) (endpoint : QuotaEndpoint) (hour : Nat)
  | ip (caller : IpLabel) (address : KeyHash) (hour : Nat)
  | shard (issuer : KeyHash) (index : Fin blindShardCount) (hour : Nat)
  | nonce (issuer : KeyHash) (hour : Nat)
  | lockout (actor : ActorId)
  | locked (actor : ActorId)
  | adminRl (roleTag : String) (address : KeyHash) (hour : Nat)

def Counter.key : Counter → String
  | .quota client endpoint hour => quotaKey client.text endpoint.label hour
  | .ip caller address hour => blindKey (ipKey caller address.text) hour
  | .shard issuer index hour => shardKey issuer.text index hour
  | .nonce issuer hour => nonceRateKey issuer.text hour
  | .lockout actor => lockoutKey actor.type actor.id
  | .locked actor => lockedKey actor.type actor.id
  | .adminRl roleTag address hour => adminRlKey roleTag address.text hour

/-! ## Families -/

def Counter.family : Counter → String
  | .quota .. => "quota"
  | .ip .. | .shard .. => "blind"
  | .nonce .. => "nonce"
  | .lockout .. => "lockout"
  | .locked .. => "locked"
  | .adminRl .. => "admin_rl"

/-- What stands behind the family, split where its parts can be told apart. -/
def Counter.body : Counter → String
  | .quota client endpoint hour => client.text ++ ("|" ++ (endpoint.label ++ ("|" ++ toString hour)))
  | .ip caller address hour => caller.label ++ (":" ++ (address.text ++ ("|" ++ toString hour)))
  | .shard issuer index hour => issuer.text ++ (":" ++ (toString index.val ++ ("|" ++ toString hour)))
  | .nonce issuer hour => issuer.text ++ ("|" ++ toString hour)
  | .lockout actor | .locked actor => actor.type ++ (":" ++ actor.id)
  | .adminRl roleTag address hour => (roleTag ++ (":" ++ address.text)) ++ (":" ++ toString hour)

theorem key_eq_family (c : Counter) : c.key = c.family ++ (":" ++ c.body) := by
  cases c with
  | quota | ip | shard | nonce | lockout | locked | adminRl =>
    apply String.toList_injective
    simp [Counter.key, Counter.family, Counter.body, quotaKey, blindKey, ipKey, shardKey, nonceRateKey, lockoutKey, lockedKey,
      adminRlKey]

def noColon (c : Char) : Bool := c != ':'

def noBar (c : Char) : Bool := c != '|'

theorem family_noColon (c : Counter) : c.family.toList.all noColon = true := by
  cases c with
  | quota | ip | shard | nonce | lockout | locked | adminRl => simp only [Counter.family]; decide

theorem key_split {a b : Counter} (h : a.key = b.key) : a.family = b.family ∧ a.body = b.body := by
  rw [key_eq_family, key_eq_family] at h
  exact append_sep_inj (family_noColon a) (family_noColon b) (by decide) h

/-! ## Parts -/

theorem hex_noColon (h : KeyHash) : h.text.toList.all noColon = true := by
  have hhex := h.hex
  rw [List.all_eq_true] at hhex ⊢
  intro c hc
  have hdigit := hhex c hc
  by_cases hcolon : c = ':'
  · subst hcolon
    exact absurd hdigit (by decide)
  · simp [noColon, hcolon]

theorem client_chars (client : ClientId) : client.text.toList.all isIdentifierChar = true := by
  have hvalid := client.valid
  unfold validateIdentifier at hvalid
  repeat' split at hvalid
  · cases hvalid
  · cases hvalid
  · cases hvalid
  · rename_i hall
    simpa using hall

theorem actorType_noColon (actor : ActorId) : actor.type.toList.all noColon = true := by
  have hvalid := actor.valid
  have htype : actor.type = "officer" ∨ actor.type = "client" ∨ actor.type = "admin" := by
    simp only [validateActor, bind, Except.bind] at hvalid
    split at hvalid
    · cases hvalid
    unfold validateActorType at hvalid
    split at hvalid
    · cases hvalid
    · rename_i hone
      by_contra hnone
      simp only [not_or] at hnone
      exact hone hnone
  rcases htype with h | h | h <;> rw [h] <;> decide

theorem endpoint_noBar (endpoint : QuotaEndpoint) : endpoint.label.toList.all noBar = true := by
  cases endpoint <;> decide

theorem endpoint_label_injective {a b : QuotaEndpoint} (h : a.label = b.label) : a = b := by
  cases a <;> cases b <;> first | rfl | exact absurd h (by decide)

theorem caller_noColon (caller : IpLabel) : caller.label.toList.all noColon = true := by
  cases caller <;> decide

theorem caller_label_injective {a b : IpLabel} (h : a.label = b.label) : a = b := by
  cases a <;> cases b <;> first | rfl | exact absurd h (by decide)

/-- A label is no hash: each has a letter beyond f. -/
theorem caller_ne_hex (caller : IpLabel) (h : KeyHash) : caller.label ≠ h.text := by
  intro he
  have hhex := h.hex
  rw [← he] at hhex
  cases caller <;> exact absurd hhex (by decide)

theorem hash_hour_inj {a b : KeyHash} {m n : Nat} (h : a.text ++ ("|" ++ toString m) = b.text ++ ("|" ++ toString n)) :
    a = b ∧ m = n := by
  obtain ⟨htext, hhour⟩ := append_sep_inj a.hex b.hex (by decide) h
  exact ⟨KeyHash.ext htext, toString_injective hhour⟩

theorem actor_inj {a b : ActorId} (h : a.type ++ (":" ++ a.id) = b.type ++ (":" ++ b.id)) : a = b := by
  obtain ⟨htype, hid⟩ := append_sep_inj (actorType_noColon a) (actorType_noColon b) (by decide) h
  exact ActorId.ext htype hid

/-! ## Separation -/

/-- **No two counters share a key.** -/
theorem counter_key_injective : Function.Injective Counter.key := by
  intro a b h
  obtain ⟨hfamily, hbody⟩ := key_split h
  cases a with
  | quota client endpoint hour =>
    cases b with
    | quota client' endpoint' hour' =>
      obtain ⟨hclient, hrest⟩ := append_sep_inj (client_chars client) (client_chars client') (by decide) hbody
      obtain ⟨hlabel, hhour⟩ := append_sep_inj (endpoint_noBar endpoint) (endpoint_noBar endpoint') (by decide) hrest
      rw [ClientId.ext hclient, endpoint_label_injective hlabel, toString_injective hhour]
    | ip | shard | nonce | lockout | locked | adminRl => simp [Counter.family] at hfamily
  | ip caller address hour =>
    cases b with
    | ip caller' address' hour' =>
      obtain ⟨hlabel, hrest⟩ := append_sep_inj (caller_noColon caller) (caller_noColon caller') (by decide) hbody
      obtain ⟨rfl, rfl⟩ := hash_hour_inj hrest
      rw [caller_label_injective hlabel]
    | shard issuer index hour' =>
      obtain ⟨hlabel, -⟩ := append_sep_inj (caller_noColon caller) (hex_noColon issuer) (by decide) hbody
      exact absurd hlabel (caller_ne_hex caller issuer)
    | quota | nonce | lockout | locked | adminRl => simp [Counter.family] at hfamily
  | shard issuer index hour =>
    cases b with
    | ip caller address hour' =>
      obtain ⟨hlabel, -⟩ := append_sep_inj (hex_noColon issuer) (caller_noColon caller) (by decide) hbody
      exact absurd hlabel.symm (caller_ne_hex caller issuer)
    | shard issuer' index' hour' =>
      obtain ⟨hissuer, hrest⟩ := append_sep_inj issuer.hex issuer'.hex (by decide) hbody
      obtain ⟨hshard, hhour⟩ := append_sep_inj (toString_nat_decimal _) (toString_nat_decimal _) (by decide) hrest
      rw [KeyHash.ext hissuer, Fin.ext (toString_injective hshard), toString_injective hhour]
    | quota | nonce | lockout | locked | adminRl => simp [Counter.family] at hfamily
  | nonce issuer hour =>
    cases b with
    | nonce issuer' hour' =>
      obtain ⟨rfl, rfl⟩ := hash_hour_inj hbody
      rfl
    | quota | ip | shard | lockout | locked | adminRl => simp [Counter.family] at hfamily
  | lockout actor =>
    cases b with
    | lockout actor' => rw [actor_inj hbody]
    | quota | ip | shard | nonce | locked | adminRl => simp [Counter.family] at hfamily
  | locked actor =>
    cases b with
    | locked actor' => rw [actor_inj hbody]
    | quota | ip | shard | nonce | lockout | adminRl => simp [Counter.family] at hfamily
  | adminRl roleTag address hour =>
    cases b with
    | adminRl roleTag' address' hour' =>
      obtain ⟨hrest, hhour⟩ := append_sep_inj_last (toString_nat_decimal hour) (toString_nat_decimal hour') (by decide) hbody
      obtain ⟨hrole, hip⟩ := append_sep_inj_last address.hex address'.hex (by decide) hrest
      rw [hrole, KeyHash.ext hip, toString_injective hhour]
    | quota | ip | shard | nonce | lockout | locked => simp [Counter.family] at hfamily

end Issuer
