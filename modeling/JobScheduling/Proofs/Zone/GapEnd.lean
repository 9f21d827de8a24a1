import JobScheduling.Proofs.Zone.WallClock

/-! The end of a gap. Read with the offset before the change, a reading of a gap is an instant after the change, and
    read with the offset after it one before the change; both are within 48 hours of the change, so in between the
    seconds from the change on are those with the later offset. Halving keeps the change between its two ends, and
    leaves it when they are neighbours. -/

namespace JobScheduling
namespace Offsets

open Calendar

/-! ### Seconds since 1970 -/

theorem epoch_mod_second : epoch % second = 0 := by decide

theorem epochSecond_spec {u : Int} (hu : u % second = 0) : epoch + epochSecond u * second = u := by
  have := epoch_mod_second
  have h0 : (u - epoch) % second = 0 := by
    simp only [second] at *
    omega
  simp only [epochSecond, h0, if_true]
  simp only [second] at *
  omega

theorem ofEpochSecond_eq_ok {n u : Int} :
    ofEpochSecond n = .ok u ↔ inRange (epoch + n * second) = true ∧ u = epoch + n * second := by
  unfold ofEpochSecond
  dsimp only
  by_cases h : inRange (epoch + n * second) = true
  · rw [if_pos h, Except.ok.injEq, eq_comm, and_iff_right h]
  · rw [if_neg h]
    exact iff_of_false (fun e => nomatch e) fun e => h e.1

/-! ### Halving -/

section Halving
variable {z : Offsets} {target : Option Int} {last : Int}

/-- Halving finds the least second that has an offset, when those from it on have the offset and those before it
    have not. -/
theorem bisect_eq_ok {low high x : Int} (hlow : low < last) (hhigh : last ≤ high)
    (h : ∀ n o, low < n → n < high → z.offsetAtSecond n = .ok o → (o = target ↔ last ≤ n))
    (hx : z.bisect target low high = .ok x) : x = last := by
  induction low, high using bisect.induct with
  | case1 low high hlt middle ihlow ihhigh =>
    rw [bisect, dif_pos hlt] at hx
    obtain ⟨o, ho, hx⟩ := Outcome.bind_eq_ok.mp hx
    have hmiddle := h middle o (by omega) (by omega) ho
    split at hx
    · rename_i hot
      exact ihlow hlow (hmiddle.mp hot) (fun n o h1 h2 => h n o h1 (by omega)) hx
    · rename_i hot
      exact ihhigh (by_contra fun hlast => hot (hmiddle.mpr (by omega))) hhigh
        (fun n o h1 h2 => h n o (by omega) h2) hx
  | case2 low high hle =>
    rw [bisect, dif_neg hle] at hx
    cases hx
    omega

theorem exists_bisect {low high : Int} (hlt : low < high)
    (h : ∀ n, low < n → n < high → ∃ o, z.offsetAtSecond n = .ok o) :
    ∃ x, low < x ∧ x ≤ high ∧ z.bisect target low high = .ok x := by
  induction low, high using bisect.induct with
  | case1 low high hfar middle ihlow ihhigh =>
    obtain ⟨o, ho⟩ := h middle (by omega) (by omega)
    have ho' : z.offsetAtSecond ((low + high) / 2) = .ok o := ho
    rw [bisect, dif_pos hfar]
    simp only [ho', Outcome.ok_bind]
    split
    · obtain ⟨x, h1, h2, hx⟩ := ihlow (by omega) fun n h1 h2 => h n h1 (by omega)
      exact ⟨x, h1, by omega, hx⟩
    · obtain ⟨x, h1, h2, hx⟩ := ihhigh (by omega) fun n h1 h2 => h n (by omega) h2
      exact ⟨x, by omega, h2, hx⟩
  | case2 low high hnear => exact ⟨high, hlt, Int.le_refl high, by rw [bisect, dif_neg hnear]⟩

end Halving

namespace Spaced
variable {z : Offsets} {off : Int → Int} (hz : z.Spaced off)
include hz

theorem offsetAtSecond_eq_ok {n : Int} {o : Option Int} (h : z.offsetAtSecond n = .ok o) :
    o = some (off (epoch + n * second)) := by
  obtain ⟨u, hu, h⟩ := Outcome.bind_eq_ok.mp h
  obtain ⟨-, rfl⟩ := ofEpochSecond_eq_ok.mp hu
  obtain ⟨r, hr, h⟩ := Outcome.bind_eq_ok.mp h
  obtain ⟨fold, hinstant, hfold⟩ := hz.atInstant (epoch + n * second)
  simp only [toReading, hinstant, Outcome.bind_eq_ok, checked_eq_ok_iff] at hr
  obtain ⟨_, ⟨-, rfl⟩, hr⟩ := hr
  cases hr
  rw [hz.checkedAt_instant hfold] at h
  exact (Except.ok.inj h).symm

theorem exists_offsetAtSecond {r n : Int} (hr : WellInside r)
    (h : r - day ≤ epoch + n * second ∧ epoch + n * second ≤ r + day) : ∃ o, z.offsetAtSecond n = .ok o := by
  have hu := hz.bounded (epoch + n * second)
  obtain ⟨fold, hinstant, hfold⟩ := hz.atInstant (epoch + n * second)
  have h1 := ofEpochSecond_eq_ok.mpr ⟨inRange_of_wellInside hr (u := epoch + n * second) (by omega), rfl⟩
  have h2 := checked_of_inRange
    (inRange_of_wellInside hr (u := epoch + n * second + off (epoch + n * second)) (by omega))
  refine ⟨some (off (epoch + n * second)), ?_⟩
  simp only [offsetAtSecond, toReading, h1, hinstant, h2, Outcome.ok_bind, hz.checkedAt_instant hfold]

/-! ### Gaps -/

/-- The ends between which the change of a gap is searched: the change is after the one and not after the other,
    and 48 hours on both sides are not left. -/
theorem gap_ends {t r : Int} (ht : InGap off t r) : r - off t < t ∧ t ≤ r - off (t - 1) ∧
    t - 2 * day < r - off t ∧ r - off (t - 1) < t + 2 * day := by
  have hbefore := hz.bounded (t - 1)
  have hafter := hz.bounded t
  simp only [InGap] at ht
  omega

theorem gap_whole {t r : Int} (ht : InGap off t r) (hr : r % second = 0) :
    t % second = 0 ∧ (r - off t) % second = 0 ∧ (r - off (t - 1)) % second = 0 := by
  obtain ⟨wt, wbefore, wafter⟩ := hz.whole ht.changesAt
  refine ⟨wt, ?_, ?_⟩
  · rw [Int.sub_emod, hr, wafter]
    rfl
  · rw [Int.sub_emod, hr, wbefore]
    rfl

/-- What is found for a whole second of a gap is the end of the gap. -/
theorem afterGap_eq_ok {t r x : Int} (ht : InGap off t r) (hr : r % second = 0) (h : z.afterGap r = .ok x) : x = t := by
  obtain ⟨a, ha, h₁⟩ := Outcome.bind_eq_ok.mp h
  obtain ⟨b, hb, h₂⟩ := Outcome.bind_eq_ok.mp h₁
  obtain ⟨o, ho, h₃⟩ := Outcome.bind_eq_ok.mp h₂
  obtain ⟨n, hn, h₄⟩ := Outcome.bind_eq_ok.mp h₃
  obtain ⟨-, rfl⟩ := (toInstant_eq_ok (hz.checkedAt_change (Or.inl ht) false)).mp ha
  obtain ⟨-, rfl⟩ := (toInstant_eq_ok (hz.checkedAt_change (Or.inl ht) true)).mp hb
  obtain ⟨-, rfl⟩ := ofEpochSecond_eq_ok.mp h₄
  obtain ⟨wt, wlow, whigh⟩ := hz.gap_whole ht hr
  obtain ⟨h1, h2, h3, h4⟩ := hz.gap_ends ht
  have het := epochSecond_spec wt
  have hlow := epochSecond_spec wlow
  have hhigh := epochSecond_spec whigh
  simp only [Bool.false_eq_true, if_false, if_true] at hn ho
  rw [min_eq_right (by omega), max_eq_left (by omega)] at hn
  rw [max_eq_left (by omega)] at ho
  have ho := hz.offsetAtSecond_eq_ok ho
  rw [hhigh, hz.after ht.changesAt h2 h4] at ho
  subst ho
  simp only [second] at *
  have := bisect_eq_ok (show epochSecond (r - off t) < epochSecond t by omega) (by omega) (fun k o hk1 hk2 hk => ?_) hn
  · rw [this, het]
  · rw [hz.offsetAtSecond_eq_ok hk, Option.some.injEq]
    simp only [second]
    rcases lt_or_ge (epoch + k * 1000000) t with hlt | hge
    · rw [hz.before ht.changesAt hlt (by omega)]
      exact iff_of_false ht.changesAt (by omega)
    · rw [hz.after ht.changesAt hge (by omega)]
      exact iff_of_true rfl (by omega)

theorem exists_afterGap {t r : Int} (ht : InGap off t r) (hr : r % second = 0) (hin : WellInside r) :
    ∃ x, z.afterGap r = .ok x := by
  obtain ⟨-, wlow, whigh⟩ := hz.gap_whole ht hr
  obtain ⟨h1, h2, h3, h4⟩ := hz.gap_ends ht
  have hlow := epochSecond_spec wlow
  have hhigh := epochSecond_spec whigh
  have hbefore := hz.bounded (t - 1)
  have hafter := hz.bounded t
  have ha := (toInstant_eq_ok (hz.checkedAt_change (Or.inl ht) false)).mpr
    ⟨inRange_of_wellInside hin (u := r - off (t - 1)) (by omega), rfl⟩
  have hb := (toInstant_eq_ok (hz.checkedAt_change (Or.inl ht) true)).mpr
    ⟨inRange_of_wellInside hin (u := r - off t) (by omega), rfl⟩
  obtain ⟨o, ho⟩ := hz.exists_offsetAtSecond hin (n := epochSecond (r - off (t - 1))) (by omega)
  simp only [second] at hlow hhigh
  obtain ⟨n, hn1, hn2, hn⟩ : ∃ n, epochSecond (r - off t) < n ∧ n ≤ epochSecond (r - off (t - 1)) ∧
      z.bisect o (epochSecond (r - off t)) (epochSecond (r - off (t - 1))) = .ok n :=
    exists_bisect (by omega) fun k hk1 hk2 => hz.exists_offsetAtSecond hin (by
      simp only [second]
      omega)
  have hx := ofEpochSecond_eq_ok.mpr
    ⟨inRange_of_wellInside hin (u := epoch + n * second) (by simp only [second]; omega), rfl⟩
  refine ⟨epoch + n * second, ?_⟩
  unfold afterGap
  simp only [ha, hb, Outcome.ok_bind, Bool.false_eq_true, if_false, if_true]
  rw [min_eq_right (by omega), max_eq_left (by omega)]
  simp only [ho, hn, hx, Outcome.ok_bind]

end Spaced
end Offsets
end JobScheduling
