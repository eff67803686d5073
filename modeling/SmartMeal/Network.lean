/-
Requests, answers and the stored keys.

A data task ends with the triple that URLSession hands to its closure.  A server
answer is any such triple: an HTTP status with any body, a response that is not
HTTP, or an error.  The literal addresses of the app are all valid, so the
branches taken on a malformed address are not reachable and are left out.
-/

import SmartMeal.Json

namespace SmartMeal

structure NSError where
  domain : String
  code : Int
  localizedDescription : String

inductive URLResponse where
  | http (statusCode : Int)
  | other

structure TaskResult where
  data : Option Data
  response : Option URLResponse
  error : Option NSError

def TaskResult.statusCode (result : TaskResult) : Option Int :=
  match result.response with
  | some (.http statusCode) => some statusCode
  | _ => none

def bareStatus (statusCode : Int) : TaskResult :=
  { data := none, response := some (.http statusCode), error := none }

def networkError : TaskResult :=
  { data := none
    response := none
    error := some
      { domain := "NSURLErrorDomain"
        code := -1009
        localizedDescription := "The Internet connection appears to be offline." } }

/-- A request; `bearer` is the token of the header `Authorization: Bearer`. -/
structure URLRequest where
  url : String
  httpMethod : String
  bearer : Option String
  contentType : Option String
  httpBody : Option Data

structure UserDefaults where
  authToken : Option String
  refreshToken : Option String
  favoriteRecipes : Option Data

/-- `APIService.saveToken`. -/
def saveToken (access refresh : String) (defaults : UserDefaults) : UserDefaults :=
  { defaults with authToken := some access, refreshToken := some refresh }

/-- The two `removeObject` calls of the sign-out row, and of the block that
`validateToken` queues after a failed refresh. -/
def removeTokens (defaults : UserDefaults) : UserDefaults :=
  { defaults with authToken := none, refreshToken := none }

end SmartMeal
