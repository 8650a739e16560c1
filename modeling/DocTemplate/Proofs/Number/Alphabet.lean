import DocTemplate.Proofs.Number.Digits
import DocTemplate.Number.FloatText

/-!
# The characters of numbers

Numbers are written with letters, digits, signs and points. So nothing of a number is markup.
-/

namespace DocTemplate.Number

/-- The characters that numbers are written with. -/
def isNumberChar (c : Char) : Bool := c.isAlphanum || c == '+' || c == '-' || c == '.'

def NumberText (cs : List Char) : Prop := ∀ c ∈ cs, isNumberChar c

instance (cs : List Char) : Decidable (NumberText cs) := decidable_of_iff (cs.all isNumberChar) List.all_eq_true

namespace NumberText

variable {as bs : List Char}

theorem append (ha : NumberText as) (hb : NumberText bs) : NumberText (as ++ bs) :=
  List.forall_mem_append.mpr ⟨ha, hb⟩

theorem cons {c : Char} (hc : isNumberChar c) (hb : NumberText bs) : NumberText (c :: bs) :=
  List.forall_mem_cons.mpr ⟨hc, hb⟩

theorem subset (ha : NumberText as) (h : bs ⊆ as) : NumberText bs := fun c hc => ha c (h hc)

theorem decimalDigits (n : Nat) : NumberText (decimalDigits n) := fun c hc => by
  simp [isNumberChar, Char.isAlphanum, isDigit_of_mem_decimalDigits hc]

theorem zeros (n : Nat) : NumberText (zeros n) := fun c hc => by
  rw [List.eq_of_mem_replicate hc]
  decide

theorem positional (n : Nat) (e : Int) {ending : List Char} (h : NumberText ending) :
    NumberText (positional n e ending) := by
  have hdigits := decimalDigits n
  unfold Number.positional
  dsimp only
  split
  · exact (hdigits.append (zeros _)).append h
  · split
    · exact .cons (by decide) (.cons (by decide) ((zeros _).append hdigits))
    · exact .append (hdigits.subset (List.take_subset ..)) (.cons (by decide) (hdigits.subset (List.drop_subset ..)))

theorem fraction (h : NumberText as) : NumberText (if as.isEmpty then [] else '.' :: as) := by
  split
  · exact nofun
  · exact .cons (by decide) h

theorem exponentText (e : Int) : NumberText (exponentText e) :=
  .cons (by decide) (.cons (by split <;> decide) ((zeros _).append (decimalDigits _)))

theorem scientific (n : Nat) (e : Int) : NumberText (scientific n e) := by
  have hdigits := decimalDigits n
  unfold Number.scientific
  split
  · exact nofun
  · next d ds hds =>
    rw [hds] at hdigits
    obtain ⟨hd, hrest⟩ : isNumberChar d ∧ NumberText ds := List.forall_mem_cons.mp hdigits
    exact .cons hd (hrest.fraction.append (exponentText _))

theorem magnitudeText (p : BinaryParts) : NumberText (magnitudeText p) := by
  unfold Number.magnitudeText
  split
  · decide
  · dsimp only
    split
    · exact scientific _ _
    · exact positional _ _ (by decide)

theorem floatText (x : Float) : NumberText (floatText x) := by
  unfold Number.floatText
  split
  · split
    · exact .cons (by decide) (magnitudeText _)
    · exact magnitudeText _
  · repeat' split
    all_goals decide

theorem wholeOrFull (x : Float) : NumberText (wholeOrFull x) := by
  unfold Number.wholeOrFull
  split
  · exact .append (by split <;> decide) (decimalDigits _)
  · exact floatText x

theorem finite (n : Numeral) : NumberText (Decimal.finite n).text := by
  have hsize : NumberText (decimalMagnitudeText n.coefficient n.exponent) := by
    have hdigits := decimalDigits n.coefficient
    unfold decimalMagnitudeText
    dsimp only
    split
    · exact positional _ _ nofun
    · split
      · exact nofun
      · next d ds hds =>
        rw [hds] at hdigits
        obtain ⟨hd, hrest⟩ : isNumberChar d ∧ NumberText ds := List.forall_mem_cons.mp hdigits
        have hpower : NumberText ((if leadingExponent n.coefficient n.exponent < 0 then '-' else '+') ::
            Number.decimalDigits (leadingExponent n.coefficient n.exponent).natAbs) :=
          .cons (by split <;> decide) (decimalDigits _)
        exact .cons hd (hrest.fraction.append (.cons (by decide) hpower))
  unfold Decimal.text
  dsimp only
  split
  · exact .cons (by decide) hsize
  · exact hsize

/-- No character of a number has a meaning in markup. -/
theorem not_markup (h : NumberText as) : ∀ c ∈ ['<', '>', '"', '&', ' ', '/'], c ∉ as := fun c hc hmem => by
  have hnone : ['<', '>', '"', '&', ' ', '/'].all (!isNumberChar ·) := by decide
  simpa [h c hmem] using List.all_eq_true.mp hnone c hc

end NumberText

end DocTemplate.Number
