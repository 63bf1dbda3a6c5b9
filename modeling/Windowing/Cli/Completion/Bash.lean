set_option autoImplicit false

/-! # The bash completion script (version 2)

The script a shell loads to complete the program's command lines. It asks the program
itself for the choices: it runs the program with the hidden command `request` (which
lists choices with or without their descriptions) followed by the words typed so far,
and reads the choices and the closing directive line back. `name` is the program's
name; the script's functions are named after it. -/

namespace Windowing.Cli.Completion

/-- The bash completion script (version 2) for the program `name`, asking for choices with the
command `request`. -/
def bashScript (name request : String) : String :=
  String.join [
    "# bash completion V2 for " ++ name ++ "                             -*- shell-script -*-\n",
    "\n",
    "__" ++ name ++ "_debug()\n",
    "\x7b\n",
    "    if [[ -n $\x7bBASH_COMP_DEBUG_FILE-\x7d ]]; then\n",
    "        echo \"$*\" >> \"$\x7bBASH_COMP_DEBUG_FILE\x7d\"\n",
    "    fi\n",
    "\x7d\n",
    "\n",
    "# Macs have bash3 for which the bash-completion package doesn't include\n",
    "# _init_completion. This is a minimal version of that function.\n",
    "__" ++ name ++ "_init_completion()\n",
    "\x7b\n",
    "    COMPREPLY=()\n",
    "    _get_comp_words_by_ref \"$@\" cur prev words cword\n",
    "\x7d\n",
    "\n",
    "# This function calls the " ++ name ++ " program to obtain the completion\n",
    "# results and the directive.  It fills the 'out' and 'directive' vars.\n",
    "__" ++ name ++ "_get_completion_results() \x7b\n",
    "    local requestComp lastParam lastChar args\n",
    "\n",
    "    # Prepare the command to request completions for the program.\n",
    "    # Calling $\x7bwords[0]\x7d instead of directly " ++ name ++ " allows handling aliases\n",
    "    args=(\"$\x7bwords[@]:1\x7d\")\n",
    "    requestComp=\"$\x7bwords[0]\x7d " ++ request ++ " $\x7bargs[*]\x7d\"\n",
    "\n",
    "    lastParam=$\x7bwords[$(($\x7b#words[@]\x7d-1))]\x7d\n",
    "    lastChar=$\x7blastParam:$(($\x7b#lastParam\x7d-1)):1\x7d\n",
    "    __" ++ name ++ "_debug \"lastParam $\x7blastParam\x7d, lastChar $\x7blastChar\x7d\"\n",
    "\n",
    "    if [[ -z $\x7bcur\x7d && $\x7blastChar\x7d != = ]]; then\n",
    "        # If the last parameter is complete (there is a space following it)\n",
    "        # We add an extra empty parameter so we can indicate this to the go method.\n",
    "        __" ++ name ++ "_debug \"Adding extra empty parameter\"\n",
    "        requestComp=\"$\x7brequestComp\x7d ''\"\n",
    "    fi\n",
    "\n",
    "    # When completing a flag with an = (e.g., " ++ name ++ " -n=<TAB>)\n",
    "    # bash focuses on the part after the =, so we need to remove\n",
    "    # the flag part from $cur\n",
    "    if [[ $\x7bcur\x7d == -*=* ]]; then\n",
    "        cur=\"$\x7bcur#*=\x7d\"\n",
    "    fi\n",
    "\n",
    "    __" ++ name ++ "_debug \"Calling $\x7brequestComp\x7d\"\n",
    "    # Use eval to handle any environment variables and such\n",
    "    out=$(eval \"$\x7brequestComp\x7d\" 2>/dev/null)\n",
    "\n",
    "    # Extract the directive integer at the very end of the output following a colon (:)\n",
    "    directive=$\x7bout##*:\x7d\n",
    "    # Remove the directive\n",
    "    out=$\x7bout%:*\x7d\n",
    "    if [[ $\x7bdirective\x7d == \"$\x7bout\x7d\" ]]; then\n",
    "        # There is not directive specified\n",
    "        directive=0\n",
    "    fi\n",
    "    __" ++ name ++ "_debug \"The completion directive is: $\x7bdirective\x7d\"\n",
    "    __" ++ name ++ "_debug \"The completions are: $\x7bout\x7d\"\n",
    "\x7d\n",
    "\n",
    "__" ++ name ++ "_process_completion_results() \x7b\n",
    "    local shellCompDirectiveError=1\n",
    "    local shellCompDirectiveNoSpace=2\n",
    "    local shellCompDirectiveNoFileComp=4\n",
    "    local shellCompDirectiveFilterFileExt=8\n",
    "    local shellCompDirectiveFilterDirs=16\n",
    "    local shellCompDirectiveKeepOrder=32\n",
    "\n",
    "    if (((directive & shellCompDirectiveError) != 0)); then\n",
    "        # Error code.  No completion.\n",
    "        __" ++ name ++ "_debug \"Received error from custom completion go code\"\n",
    "        return\n",
    "    else\n",
    "        if (((directive & shellCompDirectiveNoSpace) != 0)); then\n",
    "            if [[ $(type -t compopt) == builtin ]]; then\n",
    "                __" ++ name ++ "_debug \"Activating no space\"\n",
    "                compopt -o nospace\n",
    "            else\n",
    "                __" ++ name ++ "_debug \"No space directive not supported in this version of bash\"\n",
    "            fi\n",
    "        fi\n",
    "        if (((directive & shellCompDirectiveKeepOrder) != 0)); then\n",
    "            if [[ $(type -t compopt) == builtin ]]; then\n",
    "                # no sort isn't supported for bash less than < 4.4\n",
    "                if [[ $\x7bBASH_VERSINFO[0]\x7d -lt 4 || ( $\x7bBASH_VERSINFO[0]\x7d -eq 4 && $\x7bBASH_VERSINFO[1]\x7d -lt 4 ) ]]; then\n",
    "                    __" ++ name ++ "_debug \"No sort directive not supported in this version of bash\"\n",
    "                else\n",
    "                    __" ++ name ++ "_debug \"Activating keep order\"\n",
    "                    compopt -o nosort\n",
    "                fi\n",
    "            else\n",
    "                __" ++ name ++ "_debug \"No sort directive not supported in this version of bash\"\n",
    "            fi\n",
    "        fi\n",
    "        if (((directive & shellCompDirectiveNoFileComp) != 0)); then\n",
    "            if [[ $(type -t compopt) == builtin ]]; then\n",
    "                __" ++ name ++ "_debug \"Activating no file completion\"\n",
    "                compopt +o default\n",
    "            else\n",
    "                __" ++ name ++ "_debug \"No file completion directive not supported in this version of bash\"\n",
    "            fi\n",
    "        fi\n",
    "    fi\n",
    "\n",
    "    # Separate activeHelp from normal completions\n",
    "    local completions=()\n",
    "    local activeHelp=()\n",
    "    __" ++ name ++ "_extract_activeHelp\n",
    "\n",
    "    if (((directive & shellCompDirectiveFilterFileExt) != 0)); then\n",
    "        # File extension filtering\n",
    "        local fullFilter=\"\" filter filteringCmd\n",
    "\n",
    "        # Do not use quotes around the $completions variable or else newline\n",
    "        # characters will be kept.\n",
    "        for filter in $\x7bcompletions[*]\x7d; do\n",
    "            fullFilter+=\"$filter|\"\n",
    "        done\n",
    "\n",
    "        filteringCmd=\"_filedir $fullFilter\"\n",
    "        __" ++ name ++ "_debug \"File filtering command: $filteringCmd\"\n",
    "        $filteringCmd\n",
    "    elif (((directive & shellCompDirectiveFilterDirs) != 0)); then\n",
    "        # File completion for directories only\n",
    "\n",
    "        local subdir\n",
    "        subdir=$\x7bcompletions[0]\x7d\n",
    "        if [[ -n $subdir ]]; then\n",
    "            __" ++ name ++ "_debug \"Listing directories in $subdir\"\n",
    "            pushd \"$subdir\" >/dev/null 2>&1 && _filedir -d && popd >/dev/null 2>&1 || return\n",
    "        else\n",
    "            __" ++ name ++ "_debug \"Listing directories in .\"\n",
    "            _filedir -d\n",
    "        fi\n",
    "    else\n",
    "        __" ++ name ++ "_handle_completion_types\n",
    "    fi\n",
    "\n",
    "    __" ++ name ++ "_handle_special_char \"$cur\" :\n",
    "    __" ++ name ++ "_handle_special_char \"$cur\" =\n",
    "\n",
    "    # Print the activeHelp statements before we finish\n",
    "    __" ++ name ++ "_handle_activeHelp\n",
    "\x7d\n",
    "\n",
    "__" ++ name ++ "_handle_activeHelp() \x7b\n",
    "    # Print the activeHelp statements\n",
    "    if (($\x7b#activeHelp[*]\x7d != 0)); then\n",
    "        if [ -z $COMP_TYPE ]; then\n",
    "            # Bash v3 does not set the COMP_TYPE variable.\n",
    "            printf \"\\n\";\n",
    "            printf \"%s\\n\" \"$\x7bactiveHelp[@]\x7d\"\n",
    "            printf \"\\n\"\n",
    "            __" ++ name ++ "_reprint_commandLine\n",
    "            return\n",
    "        fi\n",
    "\n",
    "        # Only print ActiveHelp on the second TAB press\n",
    "        if [ $COMP_TYPE -eq 63 ]; then\n",
    "            printf \"\\n\"\n",
    "            printf \"%s\\n\" \"$\x7bactiveHelp[@]\x7d\"\n",
    "\n",
    "            if (($\x7b#COMPREPLY[*]\x7d == 0)); then\n",
    "                # When there are no completion choices from the program, file completion\n",
    "                # may kick in if the program has not disabled it; in such a case, we want\n",
    "                # to know if any files will match what the user typed, so that we know if\n",
    "                # there will be completions presented, so that we know how to handle ActiveHelp.\n",
    "                # To find out, we actually trigger the file completion ourselves;\n",
    "                # the call to _filedir will fill COMPREPLY if files match.\n",
    "                if (((directive & shellCompDirectiveNoFileComp) == 0)); then\n",
    "                    __" ++ name ++ "_debug \"Listing files\"\n",
    "                    _filedir\n",
    "                fi\n",
    "            fi\n",
    "\n",
    "            if (($\x7b#COMPREPLY[*]\x7d != 0)); then\n",
    "                # If there are completion choices to be shown, print a delimiter.\n",
    "                # Re-printing the command-line will automatically be done\n",
    "                # by the shell when it prints the completion choices.\n",
    "                printf -- \"--\"\n",
    "            else\n",
    "                # When there are no completion choices at all, we need\n",
    "                # to re-print the command-line since the shell will\n",
    "                # not be doing it itself.\n",
    "                __" ++ name ++ "_reprint_commandLine\n",
    "            fi\n",
    "        elif [ $COMP_TYPE -eq 37 ] || [ $COMP_TYPE -eq 42 ]; then\n",
    "            # For completion type: menu-complete/menu-complete-backward and insert-completions\n",
    "            # the completions are immediately inserted into the command-line, so we first\n",
    "            # print the activeHelp message and reprint the command-line since the shell won't.\n",
    "            printf \"\\n\"\n",
    "            printf \"%s\\n\" \"$\x7bactiveHelp[@]\x7d\"\n",
    "\n",
    "            __" ++ name ++ "_reprint_commandLine\n",
    "        fi\n",
    "    fi\n",
    "\x7d\n",
    "\n",
    "__" ++ name ++ "_reprint_commandLine() \x7b\n",
    "    # The prompt format is only available from bash 4.4.\n",
    "    # We test if it is available before using it.\n",
    "    if (x=$\x7bPS1@P\x7d) 2> /dev/null; then\n",
    "        printf \"%s\" \"$\x7bPS1@P\x7d$\x7bCOMP_LINE[@]\x7d\"\n",
    "    else\n",
    "        # Can't print the prompt.  Just print the\n",
    "        # text the user had typed, it is workable enough.\n",
    "        printf \"%s\" \"$\x7bCOMP_LINE[@]\x7d\"\n",
    "    fi\n",
    "\x7d\n",
    "\n",
    "# Separate activeHelp lines from real completions.\n",
    "# Fills the $activeHelp and $completions arrays.\n",
    "__" ++ name ++ "_extract_activeHelp() \x7b\n",
    "    local activeHelpMarker=\"_activeHelp_ \"\n",
    "    local endIndex=$\x7b#activeHelpMarker\x7d\n",
    "\n",
    "    while IFS='' read -r comp; do\n",
    "        [[ -z $comp ]] && continue\n",
    "\n",
    "        if [[ $\x7bcomp:0:endIndex\x7d == $activeHelpMarker ]]; then\n",
    "            comp=$\x7bcomp:endIndex\x7d\n",
    "            __" ++ name ++ "_debug \"ActiveHelp found: $comp\"\n",
    "            if [[ -n $comp ]]; then\n",
    "                activeHelp+=(\"$comp\")\n",
    "            fi\n",
    "        else\n",
    "            # Not an activeHelp line but a normal completion\n",
    "            completions+=(\"$comp\")\n",
    "        fi\n",
    "    done <<<\"$\x7bout\x7d\"\n",
    "\x7d\n",
    "\n",
    "__" ++ name ++ "_handle_completion_types() \x7b\n",
    "    __" ++ name ++ "_debug \"__" ++ name ++ "_handle_completion_types: COMP_TYPE is $COMP_TYPE\"\n",
    "\n",
    "    case $COMP_TYPE in\n",
    "    37|42)\n",
    "        # Type: menu-complete/menu-complete-backward and insert-completions\n",
    "        # If the user requested inserting one completion at a time, or all\n",
    "        # completions at once on the command-line we must remove the descriptions.\n",
    "        # https://github.com/spf13/cobra/issues/1508\n",
    "\n",
    "        # If there are no completions, we don't need to do anything\n",
    "        (( $\x7b#completions[@]\x7d == 0 )) && return 0\n",
    "\n",
    "        local tab=$'\\t'\n",
    "\n",
    "        # Strip any description and escape the completion to handled special characters\n",
    "        IFS=$'\\n' read -ra completions -d '' < <(printf \"%q\\n\" \"$\x7bcompletions[@]%%$tab*\x7d\")\n",
    "\n",
    "        # Only consider the completions that match\n",
    "        IFS=$'\\n' read -ra COMPREPLY -d '' < <(IFS=$'\\n'; compgen -W \"$\x7bcompletions[*]\x7d\" -- \"$\x7bcur\x7d\")\n",
    "\n",
    "        # compgen looses the escaping so we need to escape all completions again since they will\n",
    "        # all be inserted on the command-line.\n",
    "        IFS=$'\\n' read -ra COMPREPLY -d '' < <(printf \"%q\\n\" \"$\x7bCOMPREPLY[@]\x7d\")\n",
    "        ;;\n",
    "\n",
    "    *)\n",
    "        # Type: complete (normal completion)\n",
    "        __" ++ name ++ "_handle_standard_completion_case\n",
    "        ;;\n",
    "    esac\n",
    "\x7d\n",
    "\n",
    "__" ++ name ++ "_handle_standard_completion_case() \x7b\n",
    "    local tab=$'\\t'\n",
    "\n",
    "    # If there are no completions, we don't need to do anything\n",
    "    (( $\x7b#completions[@]\x7d == 0 )) && return 0\n",
    "\n",
    "    # Short circuit to optimize if we don't have descriptions\n",
    "    if [[ \"$\x7bcompletions[*]\x7d\" != *$tab* ]]; then\n",
    "        # First, escape the completions to handle special characters\n",
    "        IFS=$'\\n' read -ra completions -d '' < <(printf \"%q\\n\" \"$\x7bcompletions[@]\x7d\")\n",
    "        # Only consider the completions that match what the user typed\n",
    "        IFS=$'\\n' read -ra COMPREPLY -d '' < <(IFS=$'\\n'; compgen -W \"$\x7bcompletions[*]\x7d\" -- \"$\x7bcur\x7d\")\n",
    "\n",
    "        # compgen looses the escaping so, if there is only a single completion, we need to\n",
    "        # escape it again because it will be inserted on the command-line.  If there are multiple\n",
    "        # completions, we don't want to escape them because they will be printed in a list\n",
    "        # and we don't want to show escape characters in that list.\n",
    "        if (( $\x7b#COMPREPLY[@]\x7d == 1 )); then\n",
    "            COMPREPLY[0]=$(printf \"%q\" \"$\x7bCOMPREPLY[0]\x7d\")\n",
    "        fi\n",
    "        return 0\n",
    "    fi\n",
    "\n",
    "    local longest=0\n",
    "    local compline\n",
    "    # Look for the longest completion so that we can format things nicely\n",
    "    while IFS='' read -r compline; do\n",
    "        [[ -z $compline ]] && continue\n",
    "\n",
    "        # Before checking if the completion matches what the user typed,\n",
    "        # we need to strip any description and escape the completion to handle special\n",
    "        # characters because those escape characters are part of what the user typed.\n",
    "        # Don't call \"printf\" in a sub-shell because it will be much slower\n",
    "        # since we are in a loop.\n",
    "        printf -v comp \"%q\" \"$\x7bcompline%%$tab*\x7d\" &>/dev/null || comp=$(printf \"%q\" \"$\x7bcompline%%$tab*\x7d\")\n",
    "\n",
    "        # Only consider the completions that match\n",
    "        [[ $comp == \"$cur\"* ]] || continue\n",
    "\n",
    "        # The completions matches.  Add it to the list of full completions including\n",
    "        # its description.  We don't escape the completion because it may get printed\n",
    "        # in a list if there are more than one and we don't want show escape characters\n",
    "        # in that list.\n",
    "        COMPREPLY+=(\"$compline\")\n",
    "\n",
    "        # Strip any description before checking the length, and again, don't escape\n",
    "        # the completion because this length is only used when printing the completions\n",
    "        # in a list and we don't want show escape characters in that list.\n",
    "        comp=$\x7bcompline%%$tab*\x7d\n",
    "        if (($\x7b#comp\x7d>longest)); then\n",
    "            longest=$\x7b#comp\x7d\n",
    "        fi\n",
    "    done < <(printf \"%s\\n\" \"$\x7bcompletions[@]\x7d\")\n",
    "\n",
    "    # If there is a single completion left, remove the description text and escape any special characters\n",
    "    if (($\x7b#COMPREPLY[*]\x7d == 1)); then\n",
    "        __" ++ name ++ "_debug \"COMPREPLY[0]: $\x7bCOMPREPLY[0]\x7d\"\n",
    "        COMPREPLY[0]=$(printf \"%q\" \"$\x7bCOMPREPLY[0]%%$tab*\x7d\")\n",
    "        __" ++ name ++ "_debug \"Removed description from single completion, which is now: $\x7bCOMPREPLY[0]\x7d\"\n",
    "    else\n",
    "        # Format the descriptions\n",
    "        __" ++ name ++ "_format_comp_descriptions $longest\n",
    "    fi\n",
    "\x7d\n",
    "\n",
    "__" ++ name ++ "_handle_special_char()\n",
    "\x7b\n",
    "    local comp=\"$1\"\n",
    "    local char=$2\n",
    "    if [[ \"$comp\" == *$\x7bchar\x7d* && \"$COMP_WORDBREAKS\" == *$\x7bchar\x7d* ]]; then\n",
    "        local word=$\x7bcomp%\"$\x7bcomp##*$\x7bchar\x7d\x7d\"\x7d\n",
    "        local idx=$\x7b#COMPREPLY[*]\x7d\n",
    "        while ((--idx >= 0)); do\n",
    "            COMPREPLY[idx]=$\x7bCOMPREPLY[idx]#\"$word\"\x7d\n",
    "        done\n",
    "    fi\n",
    "\x7d\n",
    "\n",
    "__" ++ name ++ "_format_comp_descriptions()\n",
    "\x7b\n",
    "    local tab=$'\\t'\n",
    "    local comp desc maxdesclength\n",
    "    local longest=$1\n",
    "\n",
    "    local i ci\n",
    "    for ci in $\x7b!COMPREPLY[*]\x7d; do\n",
    "        comp=$\x7bCOMPREPLY[ci]\x7d\n",
    "        # Properly format the description string which follows a tab character if there is one\n",
    "        if [[ \"$comp\" == *$tab* ]]; then\n",
    "            __" ++ name ++ "_debug \"Original comp: $comp\"\n",
    "            desc=$\x7bcomp#*$tab\x7d\n",
    "            comp=$\x7bcomp%%$tab*\x7d\n",
    "\n",
    "            # $COLUMNS stores the current shell width.\n",
    "            # Remove an extra 4 because we add 2 spaces and 2 parentheses.\n",
    "            maxdesclength=$(( COLUMNS - longest - 4 ))\n",
    "\n",
    "            # Make sure we can fit a description of at least 8 characters\n",
    "            # if we are to align the descriptions.\n",
    "            if ((maxdesclength > 8)); then\n",
    "                # Add the proper number of spaces to align the descriptions\n",
    "                for ((i = $\x7b#comp\x7d ; i < longest ; i++)); do\n",
    "                    comp+=\" \"\n",
    "                done\n",
    "            else\n",
    "                # Don't pad the descriptions so we can fit more text after the completion\n",
    "                maxdesclength=$(( COLUMNS - $\x7b#comp\x7d - 4 ))\n",
    "            fi\n",
    "\n",
    "            # If there is enough space for any description text,\n",
    "            # truncate the descriptions that are too long for the shell width\n",
    "            if ((maxdesclength > 0)); then\n",
    "                if (($\x7b#desc\x7d > maxdesclength)); then\n",
    "                    desc=$\x7bdesc:0:$(( maxdesclength - 1 ))\x7d\n",
    "                    desc+=\"…\"\n",
    "                fi\n",
    "                comp+=\"  ($desc)\"\n",
    "            fi\n",
    "            COMPREPLY[ci]=$comp\n",
    "            __" ++ name ++ "_debug \"Final comp: $comp\"\n",
    "        fi\n",
    "    done\n",
    "\x7d\n",
    "\n",
    "__start_" ++ name ++ "()\n",
    "\x7b\n",
    "    local cur prev words cword split\n",
    "\n",
    "    COMPREPLY=()\n",
    "\n",
    "    # Call _init_completion from the bash-completion package\n",
    "    # to prepare the arguments properly\n",
    "    if declare -F _init_completion >/dev/null 2>&1; then\n",
    "        _init_completion -n =: || return\n",
    "    else\n",
    "        __" ++ name ++ "_init_completion -n =: || return\n",
    "    fi\n",
    "\n",
    "    __" ++ name ++ "_debug\n",
    "    __" ++ name ++ "_debug \"========= starting completion logic ==========\"\n",
    "    __" ++ name ++ "_debug \"cur is $\x7bcur\x7d, words[*] is $\x7bwords[*]\x7d, #words[@] is $\x7b#words[@]\x7d, cword is $cword\"\n",
    "\n",
    "    # The user could have moved the cursor backwards on the command-line.\n",
    "    # We need to trigger completion from the $cword location, so we need\n",
    "    # to truncate the command-line ($words) up to the $cword location.\n",
    "    words=(\"$\x7bwords[@]:0:$cword+1\x7d\")\n",
    "    __" ++ name ++ "_debug \"Truncated words[*]: $\x7bwords[*]\x7d,\"\n",
    "\n",
    "    local out directive\n",
    "    __" ++ name ++ "_get_completion_results\n",
    "    __" ++ name ++ "_process_completion_results\n",
    "\x7d\n",
    "\n",
    "if [[ $(type -t compopt) = \"builtin\" ]]; then\n",
    "    complete -o default -F __start_" ++ name ++ " " ++ name ++ "\n",
    "else\n",
    "    complete -o default -o nospace -F __start_" ++ name ++ " " ++ name ++ "\n",
    "fi\n",
    "\n",
    "# ex: ts=4 sw=4 et filetype=sh\n"]

end Windowing.Cli.Completion
