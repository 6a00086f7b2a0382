/-!
# Script run in the page

The functions that a browser is asked to run in a page, as text, and the calls built from them.
Elements that were handed out are registered in the page and addressed by a number from then on; a
function of one element is wrapped so that it reports an element that has left the page.
-/

set_option autoImplicit false

namespace ConsentBanner.Script

/-- A function written over several lines, with a line break before and after. -/
def block (lines : List String) : String := "\n" ++ "\n".intercalate lines ++ "\n"

/-- Registers every match below a registered element, or in the whole document, and replies with
their numbers. -/
def queryAll : String := block [
  "(scopeId, selector) => \x7b",
  "    const reg = window.__consentNodes ||",
  "        (window.__consentNodes = \x7b next: 1, byId: new Map(), ids: new WeakMap() \x7d);",
  "    const root = scopeId === null ? document : reg.byId.get(scopeId);",
  "    if (!root || (scopeId !== null && !root.isConnected)) return \x7b gone: true \x7d;",
  "    let found;",
  "    try \x7b",
  "        found = root.querySelectorAll(selector);",
  "    \x7d catch (e) \x7b",
  "        return \x7b invalid: true \x7d;",
  "    \x7d",
  "    return \x7b",
  "        ids: Array.from(found).map((el) => \x7b",
  "            let id = reg.ids.get(el);",
  "            if (id === undefined) \x7b",
  "                id = reg.next++;",
  "                reg.ids.set(el, id);",
  "                reg.byId.set(id, el);",
  "            \x7d",
  "            return id;",
  "        \x7d)",
  "    \x7d;",
  "\x7d"]

def textContent : String := "(el) => el.textContent"

def computedStyle : String := "(el, prop) => window.getComputedStyle(el)[prop] ?? null"

def offsetHeight : String := "(el) => el.offsetHeight"

/-- Whether an element is shown; a fixed one may be although its parent is not. -/
def isVisible : String := block [
  "(el) => \x7b",
  "    if (el.offsetParent !== null) return true;",
  "    const css = window.getComputedStyle(el);",
  "    return css.position === 'fixed' && css.display !== 'none';",
  "\x7d"]

def isChecked : String := "(el) => !!el.checked"

def click : String := "(el) => \x7b el.click(); return true; \x7d"

def addClass : String := "(el, cls) => \x7b el.classList.add(cls); return true; \x7d"

/-- The rectangle of an element in the window. -/
def boundingRect : String := block [
  "(el) => \x7b",
  "    const r = el.getBoundingClientRect();",
  "    return \x7b left: r.left, top: r.top, width: r.width, height: r.height \x7d;",
  "\x7d"]

/-- Sends a pointer event to an element. -/
def dispatchMouse : String := block [
  "(el, arg) => \x7b",
  "    el.dispatchEvent(new MouseEvent(arg.kind, \x7b",
  "        bubbles: true, cancelable: true, view: window,",
  "        clientX: arg.x, clientY: arg.y",
  "    \x7d));",
  "    return true;",
  "\x7d"]

def location : String := "() => window.location.href"

def isTopFrame : String := "() => window.top === window"

/-- How far the page has loaded. -/
def readyState : String := "() => document.readyState"

def cookie : String := "() => document.cookie"

/-- Evaluates script in the page; a failure reads as undefined. -/
def evalInPage : String := block [
  "(code) => \x7b",
  "    try \x7b",
  "        return window.eval(code);",
  "    \x7d catch (e) \x7b",
  "        console.warn('eval error', code, e);",
  "        return undefined;",
  "    \x7d",
  "\x7d"]

def close : String := "() => \x7b window.close(); return true; \x7d"

/-- Appends to a style element, which is created on first use. -/
def appendStyle : String := block [
  "(id, css) => \x7b",
  "    let style = document.getElementById(id);",
  "    if (!style) \x7b",
  "        style = document.createElement('style');",
  "        style.id = id;",
  "        (document.head || document.documentElement).appendChild(style);",
  "    \x7d",
  "    style.textContent += css;",
  "    return true;",
  "\x7d"]

def removeStyle : String := block [
  "(id) => \x7b",
  "    const style = document.getElementById(id);",
  "    if (!style) return false;",
  "    style.remove();",
  "    return true;",
  "\x7d"]

/-- Functions by their names. -/
def named? (name : String) : Option String :=
  match name with
  | "QUERY_ALL" => some queryAll
  | "TEXT_CONTENT" => some textContent
  | "COMPUTED_STYLE" => some computedStyle
  | "OFFSET_HEIGHT" => some offsetHeight
  | "IS_VISIBLE" => some isVisible
  | "IS_CHECKED" => some isChecked
  | "CLICK" => some click
  | "ADD_CLASS" => some addClass
  | "BOUNDING_RECT" => some boundingRect
  | "DISPATCH_MOUSE" => some dispatchMouse
  | "LOCATION" => some location
  | "IS_TOP_FRAME" => some isTopFrame
  | "READY_STATE" => some readyState
  | "COOKIE" => some cookie
  | "EVAL_IN_PAGE" => some evalInPage
  | "CLOSE" => some close
  | "APPEND_STYLE" => some appendStyle
  | "REMOVE_STYLE" => some removeStyle
  | _ => none

def call (function : String) (arguments : List String) : String :=
  "(" ++ function ++ ")(" ++ ", ".intercalate arguments ++ ")"

/-- A function of one element and an argument, wrapped to run on a registered element: it replies
that the element is gone, or with the value. -/
def nodeCall (body : String) : String :=
  "\n".intercalate [
    "(id, arg) => \x7b",
    "    const reg = window.__consentNodes;",
    "    const el = reg && reg.byId.get(id);",
    "    if (!el || !el.isConnected) return \x7b gone: true \x7d;",
    "    return \x7b value: (" ++ body ++ ")(el, arg) \x7d;",
    "\x7d"]

end ConsentBanner.Script
