/-!
# Instances

Where a library adds a second instance to one of the core language, the core one is meant here. It
is preferred in every module, whatever else the module imports.

- `instPowNat`: powers of natural numbers and integers.
- `ByteArray.instDecidableEq`: equality of byte arrays.
- `instLawfulBEq`: a test for equality that comes from a decision is lawful.
-/

attribute [instance (1100), default_instance (20000)] instPowNat
attribute [instance (1100)] ByteArray.instDecidableEq
attribute [instance (1100)] instLawfulBEq
