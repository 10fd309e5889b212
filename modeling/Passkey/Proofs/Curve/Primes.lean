import Passkey.Curve.Edwards
import Passkey.Curve.Nist
import Passkey.Theory.Primality

/-!
# The primes of the coordinate fields

Each modulus with a certificate of its primality.
-/

namespace Passkey

open Primality

namespace Curve

/-- The steps that prove the modulus of a curve to be prime. -/
def primeCertificate : Curve → List Step
  | .p256 =>
    [⟨prime .p256, 2, [(835945042244614951780389953367877943453916927241, 1)]⟩,
     ⟨835945042244614951780389953367877943453916927241, 2, [
       (774023187263532362759620327192479577272145303, 1)]⟩,
     ⟨774023187263532362759620327192479577272145303, 2, [(46076956964474543, 1), (34282281433, 1)]⟩,
     ⟨34282281433, 2, [(204061199, 1)]⟩,
     ⟨204061199, 3, [(107, 1), (23, 1), (11, 1)]⟩,
     ⟨46076956964474543, 2, [(78283, 1), (18169, 1)]⟩,
     ⟨18169, 2, [(757, 1)]⟩,
     ⟨78283, 2, [(4349, 1)]⟩]
  | .p384 =>
    [⟨prime .p384, 2, [
       (19173790298027098165721053155794528970226934547887232785722672956982046098136719667167519737147526097, 1)]⟩,
     ⟨19173790298027098165721053155794528970226934547887232785722672956982046098136719667167519737147526097, 2, [
       (529709925838459440593, 1), (1357291859799823621, 1), (312289, 1), (38557, 1), (8389, 1)]⟩,
     ⟨38557, 2, [(17, 1), (7, 1), (3, 4)]⟩,
     ⟨312289, 2, [(3253, 1)]⟩,
     ⟨1357291859799823621, 2, [(53448597593, 1)]⟩,
     ⟨53448597593, 2, [(513928823, 1)]⟩,
     ⟨513928823, 2, [(599, 1), (59, 1)]⟩,
     ⟨529709925838459440593, 2, [(105957871, 1), (181, 1), (7, 1)]⟩,
     ⟨105957871, 2, [(211, 1), (19, 1), (5, 1)]⟩]
  | .p521 =>
    [⟨prime .p521, 3, [(2400573761, 1), (34110701, 1), (7623851, 1), (5746001, 1), (858001, 1),
       (409891, 1), (61681, 1), (51481, 1), (42641, 1), (8191, 1), (2731, 1), (1613, 1), (521, 1),
       (157, 1), (131, 1), (53, 1), (41, 1), (31, 1)]⟩,
     ⟨42641, 3, [(41, 1), (13, 1)]⟩,
     ⟨51481, 3, [(13, 1), (11, 1), (5, 1)]⟩,
     ⟨61681, 3, [(257, 1)]⟩,
     ⟨409891, 3, [(1051, 1)]⟩,
     ⟨858001, 3, [(13, 1), (11, 1), (5, 3)]⟩,
     ⟨5746001, 5, [(13, 2), (5, 3)]⟩,
     ⟨7623851, 3, [(37, 1), (13, 1), (5, 2)]⟩,
     ⟨34110701, 5, [(19, 1), (13, 1), (5, 2)]⟩,
     ⟨2400573761, 3, [(347, 1), (13, 1), (5, 1), (2, 6)]⟩]

theorem areSound_primeCertificate (c : Curve) : areSound c.primeCertificate = true := by
  cases c <;> decide +kernel

theorem prime_prime (c : Curve) : c.prime.Prime := by
  cases c with
  | p256 => exact prime_of_certified (areSound_primeCertificate .p256)
  | p384 => exact prime_of_certified (areSound_primeCertificate .p384)
  | p521 => exact prime_of_certified (areSound_primeCertificate .p521)

instance (c : Curve) : Fact c.prime.Prime := ⟨c.prime_prime⟩

end Curve

namespace Edwards

/-- The steps that prove the modulus to be prime. -/
def primeCertificate : List Step :=
  [⟨prime, 2, [(74058212732561358302231226437062788676166966415465897661863160754340907, 1)]⟩,
   ⟨74058212732561358302231226437062788676166966415465897661863160754340907, 2, [
     (31757755568855353, 1), (1923133, 1), (132049, 1), (57467, 1), (353, 1), (3, 1)]⟩,
   ⟨57467, 2, [(487, 1)]⟩,
   ⟨132049, 2, [(131, 1), (7, 1)]⟩,
   ⟨1923133, 2, [(3727, 1)]⟩,
   ⟨31757755568855353, 2, [(4153, 1), (223, 1), (107, 1), (31, 1)]⟩]

theorem areSound_primeCertificate : areSound primeCertificate = true := by decide +kernel

theorem prime_prime : prime.Prime := prime_of_certified areSound_primeCertificate

instance : Fact prime.Prime := ⟨prime_prime⟩

end Edwards

end Passkey
