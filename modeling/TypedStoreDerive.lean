import TypedStoreDerive.Rust
import TypedStoreDerive.Syn
import TypedStoreDerive.Extract
import TypedStoreDerive.Derive
import TypedStoreDerive.Open
import TypedStoreDerive.ReadOnly
