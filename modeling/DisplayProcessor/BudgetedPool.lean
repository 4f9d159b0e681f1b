import DisplayProcessor.TexturePool

/-!
# Pools with a budget

`BudgetedPool` is a texture pool that hands out only so many bytes in all. A released texture
gives nothing back.
-/

namespace DisplayProcessor

/-- A texture pool and the bytes that it may hand out. -/
structure BudgetedPool where
  pool : TexturePool
  /-- The bytes that may be handed out in all; without a budget there is no end. -/
  budget : Option Nat
  /-- The bytes that were handed out. -/
  spent : Nat
deriving DecidableEq, Inhabited

namespace BudgetedPool

/-- The empty pool with a budget. -/
def empty (budget : Option Nat) : BudgetedPool := ⟨.empty, budget, 0⟩

/-- Whether an image would exceed the budget. -/
def isOver (store : BudgetedPool) (image : Image) : Bool :=
  store.budget.any fun budget => budget < store.spent + image.bytes.size

/-- Keep an image in the pool, unless it would exceed the budget. -/
def allocate (store : BudgetedPool) (image : Image) :
    Except TextureError TextureHandle × BudgetedPool :=
  if store.isOver image then
    (.error (.allocationFailed s!"{image.bytes.size} bytes over budget"), store)
  else
    match store.pool.allocate image with
    | (.error e, pool) => (.error e, { store with pool := pool })
    | (.ok handle, pool) =>
      (.ok handle, { store with pool := pool, spent := store.spent + image.bytes.size })

/-- Forget the image behind a handle. -/
def release (store : BudgetedPool) (handle : TextureHandle) : BudgetedPool :=
  { store with pool := store.pool.release handle }

instance : TextureAllocator BudgetedPool where
  allocate := allocate
  release := release

end BudgetedPool

end DisplayProcessor
