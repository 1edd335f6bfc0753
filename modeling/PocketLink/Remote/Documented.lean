import PocketLink.Remote.Constants
import PocketLink.Wire.Command
import PocketLink.Wire.Frame
import PocketLink.Wire.Status

/-!
# Documented numbers

The numbers of calls and codes under the names that the documents of the platform give them.
-/

namespace PocketLink

/-- The documented names and their numbers, in alphabetical order. -/
def documentedNumbers : List (String × Nat) := [
  ("CERAPI_E_ALREADYINITIALIZED", Status.alreadyInitialized.toNat),
  ("CREATE_ALWAYS", Disposition.createAlways.toNat),
  ("CREATE_NEW", Disposition.createNew.toNat),
  ("ERROR_FILENAME_EXCED_RANGE", Status.pathTooLong.toNat),
  ("ERROR_INVALID_PASSWORD", Status.invalidPassword.toNat),
  ("ERROR_NOT_CONNECTED", Status.notConnected.toNat),
  ("ERROR_NO_MORE_DEVICES", Status.noMoreDevices.toNat),
  ("E_ACCESSDENIED", Status.accessDenied.toNat),
  ("E_FAIL", Status.fail.toNat),
  ("E_INVALIDARG", Status.invalidArgument.toNat),
  ("E_OUTOFMEMORY", Status.outOfMemory.toNat),
  ("E_UNEXPECTED", Status.unexpected.toNat),
  ("FILE_ATTRIBUTE_DIRECTORY", Attributes.directory.toNat),
  ("FILE_ATTRIBUTE_NORMAL", Attributes.normal.toNat),
  ("GENERIC_READ", Access.read.toNat),
  ("GENERIC_WRITE", Access.write.toNat),
  ("HKEY_CLASSES_ROOT", RootKey.classesRoot.toNat),
  ("HKEY_CURRENT_USER", RootKey.currentUser.toNat),
  ("HKEY_LOCAL_MACHINE", RootKey.localMachine.toNat),
  ("HKEY_USERS", RootKey.users.toNat),
  ("INVALID_FILE_ATTRIBUTES", Attributes.invalid.toNat),
  ("INVALID_HANDLE_VALUE", Status.invalidHandle.toNat),
  ("MAX_FRAME", defaultMaxFrame.toNat),
  ("MAX_PATH", maxPath),
  ("OPEN_ALWAYS", Disposition.openAlways.toNat),
  ("OPEN_EXISTING", Disposition.openExisting.toNat),
  ("RAPI_PORT", devicePort.toNat),
  ("REG_BINARY", ValueKind.binary.toNat),
  ("REG_DWORD", ValueKind.word.toNat),
  ("REG_SZ", ValueKind.string.toNat),
  ("S_OK", Status.ok.toNat),
  ("TRUNCATE_EXISTING", Disposition.truncateExisting.toNat)]

end PocketLink
