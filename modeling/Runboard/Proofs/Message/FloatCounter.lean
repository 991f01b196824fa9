import Runboard.Message.Reader
import Runboard.Proofs.Number.Shortest

set_option autoImplicit false

namespace Runboard

open Number (Binary Decimal Layout WritesPlainly signed)

/-- Digits denote the same number with and without an exponent mark, whatever they are. The counter
of a float is written plainly, and its number is not further from the float than half a spacing
and is whole exactly if the float is. It is also the number in the JSON text of the float, unless
the float lies exactly half-way between the two. -/
theorem Counter.float_agrees_unless_halfway (x : Binary)
    (double : x.mantissa < 2 ^ Binary.precision) :
    (∀ d : Decimal, d.Normal →
      WritesPlainly d.positional d.negative d.value ∧
        Layout.denoted? d.scientific = some d.value) ∧
    ∃ (text : String) (counter json : ℚ),
      ofJson (.number (.float x)) = .ok ⟨text⟩ ∧ WritesPlainly text x.negative counter ∧
      Layout.denoted? (Json.number (.float x)).text = some json ∧
      (counter.den = 1 ↔ x.value.den = 1) ∧
      |counter - x.value| ≤ x.spacing / 2 ∧ |json - x.value| ≤ x.spacing / 2 ∧
      (counter = json ∨
        ∃ (k : Nat) (exponent : Int), k % 2 = 0 ∧
          json = signed x.negative k * 10 ^ exponent ∧
          counter = signed x.negative (k + 1) * 10 ^ exponent ∧
          2 * x.value = signed x.negative (2 * k + 1) * 10 ^ exponent) := by
  have shown := Number.normal_shortest double .up
  have printed := Number.normal_shortest double .even
  refine ⟨fun d normal => ⟨normal.writesPlainly, normal.denoted?_scientific⟩, _,
    (Number.shortest .up x).value, (Number.shortest .even x).value, rfl, ?_, ?_, ?_, ?_, ?_, ?_⟩
  · rw [← Number.negative_shortest .up x]
    exact shown.writesPlainly
  · have text : (Json.number (.float x)).text = (Number.shortest .even x).scientific :=
      String.ofList_toList
    rw [text]
    exact printed.denoted?_scientific
  · exact Number.den_value_shortest double .up
  · exact Number.abs_value_shortest_sub_le double .up
  · exact Number.abs_value_shortest_sub_le double .even
  · exact Number.value_shortest_ties double

/-- A small negative float, whose JSON text has an exponent mark. -/
theorem Counter.float_agrees_unless_halfway_small :
    let x : Binary := ⟨true, 5666839779443574, -75⟩
    Json.parse "-1.5e-7" = .ok (.number (.float x)) ∧ x.mantissa < 2 ^ Binary.precision ∧
      (Json.number (.float x)).text = "-1.5e-7" ∧
      ∃ q : ℚ, WritesPlainly "-0.00000015" true q ∧ Layout.denoted? "-1.5e-7" = some q ∧
        |q - x.value| ≤ x.spacing / 2 := by
  intro x
  have double : x.mantissa < 2 ^ Binary.precision := by decide
  have texts : numberText (.float x) = "-0.00000015" ∧
      (Json.number (.float x)).text = "-1.5e-7" ∧
      Layout.denoted? "-0.00000015" = Layout.denoted? "-1.5e-7" := by decide +kernel
  obtain ⟨_, text, counter, _, shown, plain, _, _, near, _⟩ :=
    float_agrees_unless_halfway x double
  have same : text = "-0.00000015" := by
    rw [← texts.1]
    exact (congrArg Counter.text (Except.ok.inj shown)).symm
  subst same
  exact ⟨rfl, double, texts.2.1, counter, plain, texts.2.2.symm.trans plain.denotes, near⟩

/-- Half-way between two decimals of sixteen digits: the number in the JSON text is read as the
float that it stands for, and the counter shows another one. -/
theorem Counter.halfway_float_disagrees :
    ∃ x : Binary, x.mantissa < 2 ^ Binary.precision ∧
      Json.parse "0.5000076293945312" = .ok (.number (.float x)) ∧
      (Json.number (.float x)).text = "0.5000076293945312" ∧
      ofJson (.number (.float x)) = .ok ⟨"0.5000076293945313"⟩ ∧
      Layout.denoted? "0.5000076293945313" ≠ Layout.denoted? "0.5000076293945312" := by
  have texts : numberText (.float ⟨false, 4503668346847232, -53⟩) = "0.5000076293945313" ∧
      (Json.number (.float ⟨false, 4503668346847232, -53⟩)).text = "0.5000076293945312" ∧
      Layout.denoted? "0.5000076293945313" ≠ Layout.denoted? "0.5000076293945312" := by
    decide +kernel
  refine ⟨⟨false, 4503668346847232, -53⟩, by decide, rfl, texts.2.1, ?_, texts.2.2⟩
  rw [ofJson, texts.1]

end Runboard
