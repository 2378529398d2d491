import TelegramBotApi.FileStreamConnection

/-!
# Messages between a client and TDLib

The objects of `td_api` that authorization, closing, `getFile` and file streaming exchange with
TDLib, and the callbacks that wait for their answers.
-/

namespace TelegramBotApi

inductive AuthorizationState where
  | waitTdlibParameters
  | waitPhoneNumber
  | ready
  | loggingOut
  | closing
  | closed
  | unknown
  deriving DecidableEq

/-- A `td_api::file` with its local part. -/
structure TdFile where
  id : Int
  size : Int := 0
  expectedSize : Int := 0
  downloadedSize : Int := 0
  progress : FileProgress := {}
  deriving DecidableEq

inductive TdRequest where
  | getRemoteFile (remoteFileId : Slice)
  | downloadFile (fileId : Int)
  | cancelDownloadFile (fileId : Int)
  | deleteFile (fileId : Int)
  | setOption (name : String)
  | setTdlibParameters
  | checkAuthenticationBotToken (token : Slice)
  | getMe
  | close
  | logOut
  deriving DecidableEq

inductive QueryMethod where
  | getFile (fileId : Slice) (metadataOnly : Bool)
  | close
  | logout
  | other (name : Slice)
  deriving DecidableEq

structure Query where
  id : Int
  method : QueryMethod
  deriving DecidableEq

/-- The `TdQueryCallback` classes with their constructor arguments. -/
inductive TdQueryCallback where
  | onFileStreamRemoteFile (streamId expectedSize : Int)
  | onFileStreamDownload (fileId : Int)
  | onDownloadFile (fileId : Int)
  | onCancelDownloadFile
  | onDeleteFile (fileId : Int)
  | onCheckRemoteFileId (query : Query) (metadataOnly : Bool)
  | onAuthorization
  | onInit
  | onOk
  | onOkQuery (query : Query)
  deriving DecidableEq

inductive TdObject where
  | error (error : Status)
  | file (file : TdFile)
  | ok
  | user
  deriving DecidableEq

/-- The updates other than `updateAuthorizationState`. -/
inductive TdUpdate where
  | file (file : TdFile)
  | myId (value : Option Int)
  | user (userId : Int)
  | other
  deriving DecidableEq

structure ClientSetup where
  token : Slice
  isTestDc : Bool := false
  localMode : Bool := false
  /-- `parameters_->start_time_`. -/
  serverStartTime : Int := 0
  deriving DecidableEq

structure PendingFileStream where
  streamId : Int
  fileId : Slice
  expectedSize : Int
  deriving DecidableEq

end TelegramBotApi
